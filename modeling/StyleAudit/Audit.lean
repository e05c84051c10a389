import StyleAudit.CommandLine
import StyleAudit.Logging
import StyleAudit.Report

/-!
A run of the program, from its arguments to what it shows and its exit status.

An audit is first planned: the configuration, the form of the report, the language of messages and the
paths are checked, in this order, and the first fault ends the run. Then every file is looked at, and the
report is shown.
-/

namespace StyleAudit

open Text

structure Host where
  files : FileSystem
  environment : Environment
  watched : Bool
  deriving Inhabited

/-! ## Results -/

inductive ExitStatus where
  | success
  | failure
  /-- What was asked for cannot be done. -/
  | rejected
  deriving Repr, DecidableEq, Inhabited

def ExitStatus.code : ExitStatus → Nat
  | success => 0
  | failure => 1
  | rejected => 2

/-- What a run leaves behind: its status, the text on the output stream, what was shown on the console,
and the log. -/
structure RunResult where
  status : ExitStatus
  output : String
  shown : List Display
  log : List Note
  deriving Inhabited

namespace RunResult

def printing (status : ExitStatus) (objects : List (Printed Table)) : RunResult where
  status := status
  output := ""
  shown := objects.map fun object => .print [object]
  log := []

def writing (status : ExitStatus) (output : String) : RunResult := ⟨status, output, [], []⟩

end RunResult

inductive Escape where
  | setting (invalid : InvalidSetting)
  | misuse (cause : Misuse)
  | system (reason : String)
  | unencodable (character : Char)
  deriving Repr, DecidableEq

def Escape.message : Escape → String
  | setting invalid => invalid.message
  | misuse cause => cause.message
  | system reason => reason
  | unencodable character => "cannot encode character " ++ quoted (String.singleton character)

/-! ## Plans -/

inductive Refusal where
  | configuration (reason : String)
  | unknownFormat (name : String)
  | unsupportedLocale (code : String)
  | missing (paths : List Path)
  deriving Repr, DecidableEq

namespace Refusal

def status : Refusal → ExitStatus
  | missing _ => .failure
  | _ => .rejected

def errorLine (text : String) : String := "[bold red]Error:[/bold red] " ++ text

def lines (lib : Libraries) : Refusal → List String
  | configuration reason => ["[bold red]Configuration error:[/bold red] " ++ lib.escape reason]
  | unknownFormat name =>
    [errorLine ("Unknown format '" ++ lib.escape name ++ "'. Use one of: " ++
      ", ".intercalate ReportFormat.names)]
  | unsupportedLocale code =>
    [errorLine ("Unsupported locale '" ++ lib.escape code ++ "'. Use one of: " ++
      ", ".intercalate Locale.codes)]
  | missing paths => paths.map fun p => errorLine ("Path does not exist: " ++ lib.escape p.toString)

end Refusal

inductive Stop where
  | refused (refusal : Refusal)
  | escaped (escape : Escape)
  deriving Repr, DecidableEq

/-- A configuration that cannot be made is reported, unless the system has failed. -/
def ConfigFault.stop : ConfigFault → Stop
  | loading (.malformed reason) => .refused (.configuration reason)
  | loading (.unreadable reason) => .escaped (.system reason)
  | setting invalid => .refused (.configuration invalid.message)

structure Plan where
  environment : Environment
  format : ReportFormat
  locale : Locale
  fails : Bool
  files : List Path

def envFileName : String := ".env"

def configured (lib : Libraries) (host : Host) : Except Stop Environment :=
  match (ConfigStore.ofEnvironment host.environment).get lib.load
      (host.files.fileAt? (.ofString envFileName)) with
  | (store, .ok _) => .ok store.environment
  | (_, .error fault) => .error fault.stop

def chosenFormat (name : String) : Except Refusal ReportFormat :=
  match ReportFormat.ofName? name with
  | some format => .ok format
  | none => .error (.unknownFormat name)

/-- The language of messages: as asked for, else as set; letter case does not matter. -/
def chosenLocale (env : Environment) (requested : Option String) : Except Refusal Locale :=
  let code := lowercase ((requested.filter fun code => !code.isEmpty).getD env.locale)
  match Locale.ofCode? code with
  | some locale => .ok locale
  | none => .error (.unsupportedLocale code)

def chosenFailing (env : Environment) (requested : Option Bool) : Except InvalidSetting Bool :=
  match requested with
  | some choice => .ok choice
  | none => env.failsOnFindings

def chosenFiles (fs : FileSystem) (env : Environment) (paths : List String) :
    Except Refusal (List Path) :=
  let written := if paths.isEmpty then ["."] else paths
  let collection := Collection.ofPaths fs env.exclusions (written.map Path.ofString)
  if collection.missing.isEmpty then .ok collection.files else .error (.missing collection.missing)

/-- Looks for faults in this order; the first one ends the audit. -/
def AuditRequest.plan (request : AuditRequest) (lib : Libraries) (host : Host) : Except Stop Plan := do
  let environment ← configured lib host
  let format ← (chosenFormat request.format).mapError .refused
  let locale ← (chosenLocale environment request.locale).mapError .refused
  let fails ← (chosenFailing environment request.failsOnFindings).mapError fun invalid =>
    .escaped (.setting invalid)
  let files ← (chosenFiles host.files environment request.paths).mapError .refused
  return ⟨environment, format, locale, fails, files⟩

namespace Plan

def examineFiles (plan : Plan) (lib : Libraries) (fs : FileSystem) :
    Except Misuse (RunReport × List Note) := do
  let results ← plan.files.mapM (analyzeFile lib fs)
  return (⟨results.map (·.1)⟩, results.flatMap (·.2))

/-- Progress is shown if a table will follow and someone watches. -/
def progress (plan : Plan) (watched : Bool) : List Display :=
  if plan.format = .table && watched && !plan.environment.isUnattended then
    [.progress
      { parts := [.spinner, .text, .bar, .percentage]
        caption := "Analyzing styles..."
        total := plan.files.length
        taken := plan.files.length }]
  else []

def status (plan : Plan) (report : RunReport) : ExitStatus :=
  if plan.fails && report.findingCount ≠ 0 then .failure else .success

def present (plan : Plan) (lib : Libraries) (fs : FileSystem) (report : RunReport) : RunResult :=
  match plan.format with
  | .json => .writing (plan.status report) ((report.data fs plan.locale).render ++ "\n")
  | .table => .printing (plan.status report) (report.printed lib fs plan.locale)

def execute (plan : Plan) (lib : Libraries) (host : Host) : Except Misuse RunResult := do
  let (report, log) ← plan.examineFiles lib host.files
  let result := plan.present lib host.files report
  return { result with shown := plan.progress host.watched ++ result.shown, log }

end Plan

/-! ## Runs -/

/-- Plans and carries out an audit. The log is kept if it is set up to let the notes through. -/
def AuditRequest.run (request : AuditRequest) (lib : Libraries) (host : Host) :
    Except Escape RunResult :=
  match request.plan lib host with
  | .error (.refused refusal) => .ok (.printing refusal.status ((refusal.lines lib).map .text))
  | .error (.escaped escape) => .error escape
  | .ok plan => do
    let result ← (plan.execute lib host).mapError .misuse
    return if (LogChannel.initial.setup request.verbose).isEnabled .debug then result
      else { result with log := [] }

def usage : String :=
  "stylesweep audit [--format table|json] [--locale CODE] [--fail-on-findings|--no-fail-on-findings] " ++
    "[--verbose] [PATH ...]\nstylesweep rules\nstylesweep version\n"

def Request.run (request : Request) (lib : Libraries) (host : Host) : Except Escape RunResult :=
  match request with
  | .audit request => request.run lib host
  | .rules => .ok (.printing .success [.object rulesTable])
  | .version => .ok (.writing .success ("stylesweep " ++ release ++ "\n"))
  | .help => .ok (.writing .success "")

def run (lib : Libraries) (host : Host) (arguments : List String) : Except Escape RunResult :=
  match Request.ofArguments arguments with
  | .ok request => request.run lib host
  | .error _ => .ok (.writing .rejected "")

/-! ## Output streams -/

namespace RunResult

/-- What reaches a console on a terminal that may not show every character. -/
def shownOn (result : RunResult) (terminal : Terminal) (platform : String) :
    Except LocaleFailure RunResult := do
  let console ← Console.open_ terminal platform
  let shown ← result.shown.mapM fun
    | .print objects => return Display.print (← console.print terminal objects)
    | display => pure display
  return { result with shown }

/-- Everything that the stream of a terminal is given to encode. -/
def written (result : RunResult) (lib : Libraries) (terminal : Terminal) : String :=
  String.join (result.shown.map (lib.drawn terminal)) ++
    if result.output.isEmpty then "" else lib.echoed terminal result.output

end RunResult

def Stream.write (stream : Stream) (text : String) : Except Escape Unit :=
  match text.toList.find? fun c => !stream.encodes c with
  | some c => .error (.unencodable c)
  | none => .ok ()

/-- Writes what came of a run; only then the run ends with its status. -/
def RunResult.writeTo (result : RunResult) (lib : Libraries) (stream : Stream) :
    Except Escape ExitStatus := do
  let fit ← (result.shownOn stream.terminal stream.platform).mapError fun failure =>
    .system failure.reason
  stream.write (fit.written lib stream.terminal)
  return fit.status

def AuditRequest.runOn (request : AuditRequest) (lib : Libraries) (host : Host) (stream : Stream) :
    Except Escape ExitStatus := do
  (← request.run lib host).writeTo lib stream

end StyleAudit
