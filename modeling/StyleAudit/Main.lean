import StyleAudit.Audit
import StyleAudit.Builtin

/-!
The program: it gathers from the system what a run needs, carries out the run, and shows what comes of it.
Files are listed first, and only those that the audit looks at are read.
-/

namespace StyleAudit

open Text

def settingVariables : List String :=
  [localeVariable, failureVariable, exclusionVariable] ++ Environment.unattendedMarkers

def readVariables : IO Environment :=
  settingVariables.foldlM (fun env name => do
    match ← IO.getEnv name with
    | some value => return env.put name value
    | none => return env) Registry.empty

def readFile? (name : String) : IO (Option (List UInt8)) :=
  try return some (← IO.FS.readBinFile name).toList
  catch _ => return none

def Place.spelling (place : Place) : String := "/" ++ "/".intercalate place

/-- Adds what lies at a place and below it; links to directories are not followed. -/
partial def listBelow (top : IO.FS.DirEntry) (place : Place) (fs : FileSystem) : IO FileSystem := do
  if ← top.path.isDir then
    let mut fs := { fs with directories := place :: fs.directories }
    for entry in ← top.path.readDir do
      let linked := (← entry.path.symlinkMetadata).type == .symlink
      unless linked && (← entry.path.isDir) do
        fs ← listBelow entry (place ++ [entry.fileName]) fs
    return fs
  else if ← top.path.pathExists then return fs.write place []
  else return fs

def listPath (fs : FileSystem) (p : Path) : IO FileSystem := do
  let root ← IO.currentDir
  let mut fs := fs
  for count in List.range p.parts.length do
    let step : Path := { p with parts := p.parts.take count }
    if ← (root / step.toString).isDir then
      fs := { fs with directories := step.resolve fs.cwd :: fs.directories }
  listBelow ⟨root, p.toString⟩ (p.resolve fs.cwd) fs

def readFiles (fs : FileSystem) (paths : List Path) : IO FileSystem :=
  paths.foldlM (fun fs p => do
    let place := p.resolve fs.cwd
    match ← readFile? place.spelling with
    | some bytes => return fs.write place bytes
    | none =>
      let files := fs.files.map fun entry =>
        if entry.1 = place then (place, { entry.2 with readable := false }) else entry
      return { fs with files }) fs

def readHost (request : AuditRequest) : IO Host := do
  let cwd := ((split '/' (← IO.currentDir).toString).filter fun name => !name.isEmpty)
  let environment ← readVariables
  let watched ← (← IO.getStdout).isTty
  let written := if request.paths.isEmpty then ["."] else request.paths
  let listed ← (written.map Path.ofString).foldlM listPath ⟨[], [cwd], cwd⟩
  let envFile := Path.ofString envFileName
  let files ← match ← readFile? envFileName with
    | some bytes => pure (listed.write (envFile.resolve cwd) bytes)
    | none => pure listed
  match request.plan .builtin ⟨files, environment, watched⟩ with
  | .ok plan => return ⟨← readFiles files plan.files, environment, watched⟩
  | .error _ => return ⟨files, environment, watched⟩

/-- The standard output: texts are put out in UTF-8, which has every character. -/
def standardOutput : Stream := ⟨.named "utf-8", "", fun _ => true⟩

end StyleAudit

open StyleAudit in
def main (arguments : List String) : IO UInt32 := do
  match Request.ofArguments arguments with
  | .error e =>
    IO.eprintln e.message
    return ExitStatus.rejected.code.toUInt32
  | .ok .help =>
    IO.print usage
    return ExitStatus.success.code.toUInt32
  | .ok request =>
    let host ← match request with
      | .audit request => readHost request
      | _ => pure ⟨⟨[], [], []⟩, Registry.empty, false⟩
    let ended := do
      let result ← request.run .builtin host
      return (result, ← result.writeTo .builtin standardOutput)
    match ended with
    | .ok (result, status) =>
      for note in result.log do IO.eprintln note.line
      IO.print (result.written .builtin standardOutput.terminal)
      return status.code.toUInt32
    | .error escape =>
      IO.eprintln escape.message
      return ExitStatus.failure.code.toUInt32
