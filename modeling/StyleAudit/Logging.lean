/-!
The log and where it goes.
-/

namespace StyleAudit

inductive HandlerKind where
  | console
  | discarded
  deriving Repr, DecidableEq, Inhabited

structure LogHandler where
  kind : HandlerKind
  level : Nat
  format : Option String
  deriving Repr, DecidableEq, Inhabited

/-- The log of the program: the least level it lets through, zero if none is set, whether lines go on
to the log of the process, and its handlers. -/
structure LogChannel where
  level : Nat
  propagates : Bool
  handlers : List LogHandler
  deriving Repr, DecidableEq, Inhabited

inductive LogLevel where
  | debug
  | info
  | warning
  deriving Repr, DecidableEq, Inhabited

def LogLevel.value : LogLevel → Nat
  | debug => 10
  | info => 20
  | warning => 30

namespace LogChannel

def name : String := "stylesweep"

def format : String := "%(name)s: %(message)s"

def initial : LogChannel := ⟨0, true, []⟩

/-- Sets up the log: debug lines are let through if `verbose`, else warnings only. A second call only
changes the level. -/
def setup (c : LogChannel) (verbose : Bool) : LogChannel :=
  let level := if verbose then LogLevel.debug.value else LogLevel.warning.value
  let shown := c.handlers.any fun h => h.kind = .console
  let handlers := if shown then c.handlers else c.handlers ++ [⟨.console, level, some format⟩]
  { level
    propagates := shown && c.propagates
    handlers := handlers.map fun h => { h with level } }

def addHandler (c : LogChannel) (level : Nat) : LogChannel :=
  { c with handlers := c.handlers ++ [⟨.discarded, level, none⟩] }

def clear (c : LogChannel) : LogChannel := { c with handlers := [] }

/-- The least level that is let through; that of the process if none is set. -/
def effectiveLevel (c : LogChannel) : Nat :=
  if c.level = 0 then LogLevel.warning.value else c.level

def isEnabled (c : LogChannel) (level : LogLevel) : Bool :=
  c.effectiveLevel ≤ level.value

end LogChannel

end StyleAudit
