import StyleAudit.Environment
import StyleAudit.FileSystem
import StyleAudit.Rule
import StyleAudit.Text.Blank
import StyleAudit.Text.Lowercase
import StyleAudit.Text.Pieces
import StyleAudit.Text.Quoted

/-!
The settings of a run. They live in variables of the process and are read anew each time; a file of
variables is loaded once, when a configuration is made, and the values are checked then.

A configuration itself holds nothing but its identity. The one in use is kept until it is dropped.
-/

namespace StyleAudit

open Text

/-! ## Settings -/

inductive InvalidSetting where
  | notBoolean (name raw : String)
  | unsupportedLocale (code : String)
  deriving Repr, DecidableEq

def localeVariable : String := "STYLESWEEP_LOCALE"

def failureVariable : String := "STYLESWEEP_FAIL_ON_FINDINGS"

def exclusionVariable : String := "STYLESWEEP_EXCLUDE_DIRS"

def InvalidSetting.message : InvalidSetting → String
  | notBoolean name raw => name ++ "=" ++ quoted raw ++ " is not a boolean"
  | unsupportedLocale code =>
    localeVariable ++ "=" ++ quoted code ++ " is not supported. Must be one of " ++ Locale.codeList ++ "."

def normalized (raw : String) : String := lowercase (strip raw)

def truthOf? (word : String) : Option Bool :=
  if ["1", "true", "yes", "on"].contains word then some true
  else if ["0", "false", "no", "off"].contains word then some false
  else none

/-- A yes-or-no setting; a blank value is as good as none. -/
def readBoolean (raw : Option String) (name : String) : Except InvalidSetting (Option Bool) :=
  match raw with
  | none => .ok none
  | some raw =>
    if (strip raw).isEmpty then .ok none
    else
      match truthOf? (normalized raw) with
      | some value => .ok (some value)
      | none => .error (.notBoolean name raw)

def builtinExclusions : List String :=
  ["node_modules", ".git", ".expo", ".next", "dist", "build", "coverage", "android", "ios", "vendor",
    "__generated__"]

def listedNames (text : String) : List String :=
  ((split ',' text).map strip).filter fun name => !name.isEmpty

namespace Environment

def locale (env : Environment) : String :=
  normalized ((env.get? localeVariable).getD Locale.standard.code)

def exclusions (env : Environment) : NameSet :=
  .ofList (builtinExclusions ++ listedNames ((env.get? exclusionVariable).getD ""))

/-- Whether findings make a run fail: as set or, if nothing is set, in unattended jobs. -/
def failsOnFindings (env : Environment) : Except InvalidSetting Bool :=
  match readBoolean (env.get? failureVariable) failureVariable with
  | .ok (some value) => .ok value
  | .ok none => .ok env.isUnattended
  | .error invalid => .error invalid

def validate (env : Environment) : Except InvalidSetting Unit :=
  if (Locale.ofCode? env.locale).isNone then .error (.unsupportedLocale env.locale)
  else
    match readBoolean (env.get? failureVariable) failureVariable with
    | .ok _ => .ok ()
    | .error invalid => .error invalid

end Environment

/-! ## Configurations -/

inductive LoadFailure where
  /-- Its text, a name or a value in it is none that variables can have. -/
  | malformed (reason : String)
  | unreadable (reason : String)
  deriving Repr, DecidableEq

/-- Loads a file of variables, if there is one. What was loaded before a failure stays. -/
abbrev Loader := Option FileData → Environment → Environment × Except LoadFailure Unit

inductive ConfigFault where
  | loading (failure : LoadFailure)
  | setting (invalid : InvalidSetting)
  deriving Repr, DecidableEq

structure Config where
  serial : Nat
  deriving Repr, DecidableEq, Inhabited

structure ConfigStore where
  environment : Environment
  cached : Option Config
  made : Nat
  deriving Inhabited

namespace ConfigStore

def ofEnvironment (env : Environment) : ConfigStore := ⟨env, none, 0⟩

/-- Makes a configuration: loads the file of variables, then checks the settings. What was loaded
stays, even if the check fails. -/
def construct (s : ConfigStore) (load : Loader) (file : Option FileData) :
    ConfigStore × Except ConfigFault Config :=
  let (env, loaded) := load file s.environment
  match loaded, env.validate with
  | .error failure, _ => ({ s with environment := env }, .error (.loading failure))
  | .ok (), .error invalid => ({ s with environment := env }, .error (.setting invalid))
  | .ok (), .ok () => ({ s with environment := env, made := s.made + 1 }, .ok ⟨s.made⟩)

def get (s : ConfigStore) (load : Loader) (file : Option FileData) :
    ConfigStore × Except ConfigFault Config :=
  match s.cached with
  | some config => (s, .ok config)
  | none =>
    match s.construct load file with
    | (next, .ok config) => ({ next with cached := some config }, .ok config)
    | failed => failed

def reset (s : ConfigStore) : ConfigStore := { s with cached := none }

def setVariable (s : ConfigStore) (name value : String) : ConfigStore :=
  { s with environment := s.environment.put name value }

def unsetVariable (s : ConfigStore) (name : String) : ConfigStore :=
  { s with environment := s.environment.erase name }

end ConfigStore

end StyleAudit
