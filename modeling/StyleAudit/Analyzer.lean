import StyleAudit.Note
import StyleAudit.Rule
import StyleAudit.SymbolTable
import StyleAudit.Visit

/-!
The analysis of one file.

An analyzer first takes in visits, which only change its symbol table, and is then finalized. The
findings are fixed at the first finalization, since a style may be used above its definition. From
then on every visit is refused.
-/

namespace StyleAudit

structure Finding where
  name : String
  entry : Entry
  deriving Inhabited

namespace Finding

def line (f : Finding) : Nat := f.entry.loc.line

def column (f : Finding) : Nat := f.entry.loc.column

def rule (_ : Finding) : Rule := .noUnusedStyles

def message (f : Finding) (localeCode : String) : Except UnsupportedLocale String :=
  unusedStyleMessage f.name localeCode

end Finding

/-! ## Taking in one visit -/

/-- The styles that the first argument of a factory call defines, and remarks on those passed over. -/
def definedStyles : List Term → List (String × Entry) × List Note
  | [] => ([], [])
  | t :: rest =>
    let (members, notes) := definedStyles rest
    match t.asEntry with
    | some entry =>
      match entry.key with
      | some key => ((key, entry) :: members, notes)
      | none => (members, .skippedKey entry.loc.line :: notes)
    | none => (members, notes)

def Term.entries : Term → List Term
  | .object entries _ => entries
  | _ => []

def SymbolTable.take (t : SymbolTable) : Visit → SymbolTable × List Note
  | .definition _ [] => (t, [])
  | .definition container (first :: _) =>
    let (members, notes) := definedStyles first.entries
    (t.defineContainer container members, notes ++ [.containerDefined container members.length])
  | .destructuring keys source =>
    if (t.container? source).isSome then (t.recordUsages keys, []) else (t, [])
  | .usage value => (t.recordUsages (styleNames t.containers value), [])

/-! ## The analyzer -/

inductive Misuse where
  | alreadyFinalized
  | notFinished
  deriving Repr, DecidableEq

def Misuse.message : Misuse → String
  | alreadyFinalized => "Analyzer already finalized; create a new one per file"
  | notFinished => "Findings are only available after the traversal has finished"

/-- How an operation ended: the state it left, and the failure that stopped it, if any. -/
structure Outcome (ε σ : Type) where
  state : σ
  failure : Option ε

/-- The symbol table so far and, once finalized, the findings. -/
structure Analyzer where
  symbols : SymbolTable
  fixed : Option (List Finding)
  deriving Inhabited

namespace Analyzer

def fresh : Analyzer := ⟨.empty, none⟩

def isFinalized (a : Analyzer) : Bool := a.fixed.isSome

def visit (a : Analyzer) (v : Visit) : Outcome Misuse Analyzer × List Note :=
  match a.fixed with
  | some _ => (⟨a, some .alreadyFinalized⟩, [])
  | none =>
    let (symbols, notes) := a.symbols.take v
    (⟨{ a with symbols }, none⟩, notes)

def unused (symbols : SymbolTable) : List Finding :=
  symbols.unusedDefinitions.map fun (name, entry) => ⟨name, entry⟩

/-- Fixes the findings; does nothing the second time. -/
def finalize (a : Analyzer) : Analyzer × List Note :=
  match a.fixed with
  | some _ => (a, [])
  | none =>
    let findings := unused a.symbols
    ({ a with fixed := some findings },
      [.unusedCounted findings.length a.symbols.allDefinitions.length])

def findings (a : Analyzer) : Except Misuse (List Finding) :=
  match a.fixed with
  | some findings => .ok findings
  | none => .error .notFinished

end Analyzer

end StyleAudit
