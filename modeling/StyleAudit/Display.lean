import StyleAudit.Table
import StyleAudit.Terminal

/-!
What a run shows on its console: printed objects, and the progress of a long job.
-/

namespace StyleAudit

inductive ProgressPart where
  | spinner
  | text
  | bar
  | percentage
  deriving Repr, DecidableEq, Inhabited

structure Progress where
  parts : List ProgressPart
  caption : String
  total : Nat
  taken : Nat
  deriving Repr, DecidableEq, Inhabited

inductive Display where
  | progress (progress : Progress)
  | print (objects : List (Printed Table))
  deriving Inhabited

end StyleAudit
