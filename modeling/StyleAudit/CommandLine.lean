/-!
Command lines: what is asked for, and how the arguments say so.

A command line is a command followed by its arguments. Options may stand anywhere among them; those that
need a value take what follows, whatever it looks like. A long option may have its value after an equals
sign, a short one right after its letter, and short options without values may be run together. After two
hyphens nothing is an option any more. A later option takes the place of an earlier one.
-/

namespace StyleAudit

inductive UsageError where
  | missingCommand
  | unknownCommand (name : String)
  | unknownOption (spelling : String)
  | missingValue
  | unexpectedValue (option : String)
  | surplusArgument (argument : String)
  deriving Repr, DecidableEq, Inhabited

def UsageError.message : UsageError → String
  | missingCommand => "Missing command."
  | unknownCommand name => "No such command: " ++ name
  | unknownOption spelling => "No such option: " ++ spelling
  | missingValue => "An option requires an argument."
  | unexpectedValue option => "Option does not take a value: " ++ option
  | surplusArgument argument => "Got unexpected extra argument: " ++ argument

structure AuditRequest where
  paths : List String
  format : String
  locale : Option String
  failsOnFindings : Option Bool
  verbose : Bool
  deriving Repr, DecidableEq, Inhabited

def AuditRequest.standard : AuditRequest := ⟨[], "table", none, none, false⟩

inductive Request where
  | audit (request : AuditRequest)
  | rules
  | version
  | help
  deriving Repr, DecidableEq, Inhabited

/-! ## Options -/

inductive OptionEffect (σ : Type) where
  | flag (apply : σ → σ)
  | value (apply : String → σ → σ)

/-- The options of a command by their spelling: hyphens and name, or the letter after one hyphen. -/
structure OptionTable (σ : Type) where
  long : List (String × OptionEffect σ)
  short : List (Char × OptionEffect σ)

namespace OptionTable

variable {σ : Type}

def long? (table : OptionTable σ) (spelling : String) : Option (OptionEffect σ) :=
  (table.long.find? fun entry => entry.1 = spelling).map (·.2)

def short? (table : OptionTable σ) (letter : Char) : Option (OptionEffect σ) :=
  (table.short.find? fun entry => entry.1 = letter).map (·.2)

end OptionTable

/-- The arguments read so far: the settings, the plain arguments, an option that waits for its value, and
whether there may be more options. -/
structure Reading (σ : Type) where
  settings : σ
  plain : List String
  awaiting : Option (String → σ → σ)
  ended : Bool

namespace Reading

variable {σ : Type}

def start (settings : σ) : Reading σ := ⟨settings, [], none, false⟩

/-- Whether an argument has the look of an option; a single hyphen has not. -/
def looksLikeOption (argument : String) : Bool :=
  argument.startsWith "-" && argument ≠ "-"

def readShort (table : OptionTable σ) : List Char → Reading σ → Except UsageError (Reading σ)
  | [], r => .ok r
  | letter :: rest, r =>
    match table.short? letter with
    | none => .error (.unknownOption (String.ofList ['-', letter]))
    | some (.flag apply) => readShort table rest { r with settings := apply r.settings }
    | some (.value apply) =>
      if rest.isEmpty then .ok { r with awaiting := some apply }
      else .ok { r with settings := apply (String.ofList rest) r.settings }

def splitValue (argument : List Char) : String × Option String :=
  let name := argument.takeWhile (· != '=')
  match argument.drop name.length with
  | _ :: value => (String.ofList name, some (String.ofList value))
  | [] => (String.ofList name, none)

def readOption (table : OptionTable σ) (argument : String) (r : Reading σ) :
    Except UsageError (Reading σ) :=
  let (spelling, value?) := splitValue argument.toList
  match table.long? spelling, value? with
  | some (.flag apply), none => .ok { r with settings := apply r.settings }
  | some (.flag _), some _ => .error (.unexpectedValue spelling)
  | some (.value apply), some value => .ok { r with settings := apply value r.settings }
  | some (.value apply), none => .ok { r with awaiting := some apply }
  | none, _ =>
    if argument.startsWith "--" then .error (.unknownOption spelling)
    else readShort table (argument.toList.drop 1) r

def step (table : OptionTable σ) (r : Reading σ) (argument : String) :
    Except UsageError (Reading σ) :=
  match r.awaiting with
  | some apply => .ok { r with settings := apply argument r.settings, awaiting := none }
  | none =>
    if r.ended then .ok { r with plain := r.plain ++ [argument] }
    else if argument = "--" then .ok { r with ended := true }
    else if looksLikeOption argument then readOption table argument r
    else .ok { r with plain := r.plain ++ [argument] }

def readAll (table : OptionTable σ) (settings : σ) (arguments : List String) :
    Except UsageError (Reading σ) :=
  match arguments.foldlM (step table) (start settings) with
  | .ok r => if r.awaiting.isSome then .error .missingValue else .ok r
  | .error e => .error e

end Reading

/-! ## Commands -/

structure Settings (σ : Type) where
  chosen : σ
  help : Bool

def helpOption {σ : Type} : String × OptionEffect (Settings σ) :=
  ("--help", .flag fun s => { s with help := true })

def auditOptions : OptionTable (Settings AuditRequest) :=
  let format := .value fun text s => { s with chosen := { s.chosen with format := text } }
  let locale := .value fun text s => { s with chosen := { s.chosen with locale := some text } }
  let failing (choice : Bool) :=
    .flag fun s => { s with chosen := { s.chosen with failsOnFindings := some choice } }
  let verbose := .flag fun s => { s with chosen := { s.chosen with verbose := true } }
  { long :=
      [("--format", format), ("--locale", locale), ("--fail-on-findings", failing true),
        ("--no-fail-on-findings", failing false), ("--verbose", verbose), helpOption]
    short := [('f', format), ('v', verbose)] }

def plainOptions : OptionTable (Settings Unit) := ⟨[helpOption], []⟩

def readAudit (arguments : List String) : Except UsageError Request := do
  let r ← Reading.readAll auditOptions ⟨.standard, false⟩ arguments
  if r.settings.help then return .help
  return .audit { r.settings.chosen with paths := r.plain }

def readPlain (request : Request) (arguments : List String) : Except UsageError Request := do
  let r ← Reading.readAll plainOptions ⟨(), false⟩ arguments
  if r.settings.help then return .help
  match r.plain with
  | [] => return request
  | argument :: _ => throw (.surplusArgument argument)

def readCommand : List String → Except UsageError Request
  | [] => .error .missingCommand
  | name :: arguments =>
    if name = "audit" then readAudit arguments
    else if name = "rules" then readPlain .rules arguments
    else if name = "version" then readPlain .version arguments
    else .error (.unknownCommand name)

/-- Reads the options before the command; there is none but the one that asks for help. -/
def readRequest (help : Bool) : List String → Except UsageError Request
  | [] => if help then .ok .help else .error .missingCommand
  | argument :: rest =>
    if argument = "--help" then readRequest true rest
    else if argument ≠ "--" && Reading.looksLikeOption argument then .error (.unknownOption argument)
    else if help then .ok .help
    else readCommand (if argument = "--" then rest else argument :: rest)

def Request.ofArguments (arguments : List String) : Except UsageError Request :=
  readRequest false arguments

end StyleAudit
