import StyleAudit.Collection
import StyleAudit.Libraries
import StyleAudit.Text.Json
import StyleAudit.Walk

/-!
What was found in each file, and the two forms in which it is reported: as data and as a table.
-/

namespace StyleAudit

open Text

def release : String := "1.0.0"

/-! ## Files -/

/-- The outcome for one file: its findings, or nothing if it was skipped. -/
structure FileReport where
  path : Path
  outcome : Option (List Finding)
  deriving Inhabited

namespace FileReport

def isSkipped (r : FileReport) : Bool := r.outcome.isNone

def findings (r : FileReport) : List Finding := r.outcome.getD []

end FileReport

/-- Looks at one file. It is skipped if its language is not known or it cannot be read. -/
def analyzeFile (lib : Libraries) (fs : FileSystem) (p : Path) :
    Except Misuse (FileReport × List Note) :=
  match p.language?, fs.read? p with
  | some language, some bytes =>
    match examine (lib.parse language bytes) with
    | ⟨session, none⟩ => do return (⟨p, some (← session.analyzer.findings)⟩, session.log)
    | ⟨_, some misuse⟩ => .error misuse
  | _, _ => .ok (⟨p, none⟩, [])

def Finding.messageIn (f : Finding) (locale : Locale) : String := locale.unusedStyle f.name

/-! ## Forms of a report -/

inductive ReportFormat where
  | table
  | json
  deriving Repr, DecidableEq, Inhabited

namespace ReportFormat

def name : ReportFormat → String
  | table => "table"
  | json => "json"

def all : List ReportFormat := [table, json]

def names : List String := all.map name

def ofName? (text : String) : Option ReportFormat :=
  all.find? fun format => format.name = text

end ReportFormat

structure RunReport where
  files : List FileReport
  deriving Inhabited

namespace RunReport

def findingCount (r : RunReport) : Nat := (r.files.flatMap FileReport.findings).length

def skipped (r : RunReport) : List FileReport := r.files.filter FileReport.isSkipped

def scannedCount (r : RunReport) : Nat := r.files.length - r.skipped.length

/-! ### As data -/

def findingData (fs : FileSystem) (locale : Locale) (p : Path) (f : Finding) : JsonValue :=
  .object [("file", .text (displayPath fs p)), ("line", .number f.line), ("column", .number f.column),
    ("rule", .text f.rule.id), ("style", .text f.name), ("message", .text (f.messageIn locale))]

def findingsData (r : RunReport) (fs : FileSystem) (locale : Locale) : List JsonValue :=
  r.files.flatMap fun file => file.findings.map (findingData fs locale file.path)

def data (r : RunReport) (fs : FileSystem) (locale : Locale) : JsonValue :=
  .object
    [("version", .text release),
      ("files_scanned", .number (r.files.countP fun file => !file.isSkipped)),
      ("files_skipped", .list (r.skipped.map fun file => .text (displayPath fs file.path))),
      ("findings", .list (r.findingsData fs locale))]

/-! ### As a table -/

def findingRow (lib : Libraries) (fs : FileSystem) (locale : Locale) (p : Path) (f : Finding) :
    List String :=
  [lib.escape (displayPath fs p), toString f.line ++ ":" ++ toString f.column, lib.escape f.name,
    lib.escape (f.messageIn locale)]

def table (r : RunReport) (lib : Libraries) (fs : FileSystem) (locale : Locale) : Table where
  title := "Unused Styles"
  columns :=
    [{ header := "File", style := "cyan", overflow := .fold },
      { header := "Line", style := "green", justify := .right },
      { header := "Style", style := "yellow", unbroken := true },
      { header := "Message", style := "magenta" }]
  rows := r.files.flatMap fun file => file.findings.map (findingRow lib fs locale file.path)

def verdict (r : RunReport) (lib : Libraries) (fs : FileSystem) (locale : Locale) : Printed Table :=
  if r.findingCount = 0 then .text "[bold green]✓ No unused styles found![/bold green]"
  else .object (r.table lib fs locale)

def skippedLine (lib : Libraries) (fs : FileSystem) (file : FileReport) : String :=
  "[yellow]⚠ Skipped unreadable file:[/yellow] " ++ lib.escape (displayPath fs file.path)

def summary (r : RunReport) : List String :=
  ["\n[bold yellow]Summary:[/bold yellow]", "  Files scanned: " ++ toString r.scannedCount,
    "  Unused styles: " ++ toString r.findingCount]

def printed (r : RunReport) (lib : Libraries) (fs : FileSystem) (locale : Locale) :
    List (Printed Table) :=
  r.verdict lib fs locale :: (r.skipped.map (skippedLine lib fs) ++ r.summary).map .text

end RunReport

def rulesTable : Table where
  title := "Rules"
  columns :=
    [{ header := "Rule", style := "cyan", unbroken := true },
      { header := "Type", style := "yellow", unbroken := true },
      { header := "Recommended", style := "green" },
      { header := "Fixable" },
      { header := "Description", overflow := .fold }]
  rows := Rule.all.map fun rule =>
    [rule.id, rule.kind, if rule.recommended then rule.severity else "off",
      if rule.fixable then "yes" else "no", rule.description]

end StyleAudit
