import StyleAudit.Proofs.ExitStatus
import StyleAudit.Proofs.JsonReading

/-!
# The two forms of a report say the same

What a report says is kept apart from its form: how many files were looked at, which ones could not
be opened, and what was found (`Substance`). The data form and the table form of the same audit are
both determined by it, and it accounts for every file of the collection; from the data form it can be
read back.
-/

namespace StyleAudit

open Text

/-! ## What a report says -/

structure Found where
  file : String
  line : Nat
  column : Nat
  rule : String
  style : String
  message : String

namespace Found

def toJson (f : Found) : JsonValue :=
  .object [("file", .text f.file), ("line", .number f.line), ("column", .number f.column),
    ("rule", .text f.rule), ("style", .text f.style), ("message", .text f.message)]

def toRow (lib : Libraries) (f : Found) : List String :=
  [lib.escape f.file, toString f.line ++ ":" ++ toString f.column, lib.escape f.style,
    lib.escape f.message]

end Found

structure Substance where
  scanned : Nat
  skipped : List String
  found : List Found

def Substance.toJson (s : Substance) : JsonValue :=
  .object
    [("version", .text release), ("files_scanned", .number s.scanned),
      ("files_skipped", .list (s.skipped.map .text)), ("findings", .list (s.found.map Found.toJson))]

def Finding.toFound (fs : FileSystem) (locale : Locale) (p : Path) (f : Finding) : Found :=
  ⟨displayPath fs p, f.line, f.column, f.rule.id, f.name, f.messageIn locale⟩

namespace RunReport

def substance (r : RunReport) (fs : FileSystem) (locale : Locale) : Substance where
  scanned := r.files.countP fun file => !file.isSkipped
  skipped := r.skipped.map fun file => displayPath fs file.path
  found := r.files.flatMap fun file => file.findings.map (Finding.toFound fs locale file.path)

variable (r : RunReport) (lib : Libraries) (fs : FileSystem) (locale : Locale)

theorem data_eq : r.data fs locale = (r.substance fs locale).toJson := by
  have findings : r.findingsData fs locale = (r.substance fs locale).found.map Found.toJson := by
    rw [findingsData, substance, List.map_flatMap]
    simp only [List.map_map]
    rfl
  have skipped : (r.skipped.map fun file => JsonValue.text (displayPath fs file.path)) =
      (r.substance fs locale).skipped.map .text := by
    rw [substance, List.map_map]
    rfl
  rw [data, findings, skipped]
  rfl

theorem rows_table :
    (r.table lib fs locale).rows = (r.substance fs locale).found.map (Found.toRow lib) := by
  rw [table, substance, List.map_flatMap]
  simp only [List.map_map]
  rfl

theorem findingCount_eq : r.findingCount = (r.substance fs locale).found.length := by
  simp [findingCount, substance, List.length_flatMap]

theorem scanned_add_skipped :
    (r.substance fs locale).scanned + (r.substance fs locale).skipped.length = r.files.length := by
  have parts := List.length_eq_countP_add_countP FileReport.isSkipped (l := r.files)
  have scanned : (r.substance fs locale).scanned =
      r.files.countP fun file => decide ¬ file.isSkipped = true := by
    simp [substance]
  have skipped : (r.substance fs locale).skipped.length = r.files.countP FileReport.isSkipped := by
    simp [substance, RunReport.skipped, List.countP_eq_length_filter]
  omega

theorem scannedCount_eq : r.scannedCount = (r.substance fs locale).scanned := by
  have total := r.scanned_add_skipped fs locale
  have skipped : (r.substance fs locale).skipped.length = r.skipped.length := List.length_map _
  rw [scannedCount]
  omega

end RunReport

/-! ## What a run prints -/

def Printed.table? : Printed Table → Option Table
  | .object table => some table
  | .text _ => none

def Printed.text? : Printed Table → Option String
  | .text line => some line
  | .object _ => none

def Display.objects : Display → List (Printed Table)
  | .print objects => objects
  | .progress _ => []

namespace RunResult

def printedObjects (result : RunResult) : List (Printed Table) := result.shown.flatMap Display.objects

def tables (result : RunResult) : List Table := result.printedObjects.filterMap Printed.table?

def texts (result : RunResult) : List String := result.printedObjects.filterMap Printed.text?

end RunResult

def skippedText (lib : Libraries) (file : String) : String :=
  "[yellow]⚠ Skipped unreadable file:[/yellow] " ++ lib.escape file

def Substance.summary (s : Substance) : List String :=
  ["\n[bold yellow]Summary:[/bold yellow]", "  Files scanned: " ++ toString s.scanned,
    "  Unused styles: " ++ toString s.found.length]

theorem printedObjects_printing (status : ExitStatus) (objects : List (Printed Table)) :
    (RunResult.printing status objects).printedObjects = objects := by
  simp [RunResult.printedObjects, RunResult.printing, List.flatMap_map, Display.objects]

theorem summary_eq (r : RunReport) (fs : FileSystem) (locale : Locale) :
    r.summary = (r.substance fs locale).summary := by
  rw [RunReport.summary, r.scannedCount_eq fs locale, r.findingCount_eq fs locale,
    Substance.summary]

theorem printed_eq (r : RunReport) (lib : Libraries) (fs : FileSystem) (locale : Locale) :
    r.printed lib fs locale = r.verdict lib fs locale ::
      ((r.substance fs locale).skipped.map (skippedText lib) ++
        (r.substance fs locale).summary).map .text := by
  have skipped : r.skipped.map (RunReport.skippedLine lib fs) =
      (r.substance fs locale).skipped.map (skippedText lib) := by
    rw [RunReport.substance, List.map_map]
    rfl
  rw [RunReport.printed, skipped, summary_eq r fs locale]

section

variable {result : RunResult} {verdict : Printed Table} {lines : List String}

theorem tables_of_printed (printed : result.printedObjects = verdict :: lines.map .text) :
    result.tables = verdict.table?.toList := by
  have none : (lines.map Printed.text).filterMap Printed.table? = [] := by
    simp [List.filterMap_map, Printed.table?]
  rw [RunResult.tables, printed]
  cases table : verdict.table? <;> simp [table, none]

theorem texts_of_printed (printed : result.printedObjects = verdict :: lines.map .text) :
    result.texts = verdict.text?.toList ++ lines := by
  have all : (lines.map Printed.text).filterMap Printed.text? = lines := by
    simp [List.filterMap_map, Function.comp_def, Printed.text?]
  rw [RunResult.texts, printed]
  cases text : verdict.text? <;> simp [text, all]

end

/-! ## Both forms of one audit -/

section

variable {request : AuditRequest} {lib : Libraries} {host : Host} {plan : Plan}

theorem plan_of_format (planned : request.plan lib host = .ok plan) {name : String}
    {format : ReportFormat} (named : ReportFormat.ofName? name = some format) :
    { request with format := name }.plan lib host = .ok { plan with format := format } := by
  obtain ⟨made, -, supported, chosen, complete, environment, files⟩ :=
    AuditRequest.plan_eq_ok_iff.1 planned
  exact AuditRequest.plan_eq_ok_iff.2
    ⟨made, named, supported, chosen, complete, environment, files⟩

theorem run_as_json (planned : request.plan lib host = .ok plan) (json : plan.format = .json) :
    ∃ result, request.run lib host = .ok result ∧
      result.status = plan.status (plan.report lib host.files) ∧
      result.output = ((plan.report lib host.files).data host.files plan.locale).render ++ "\n" := by
  obtain ⟨log, ran⟩ := AuditRequest.run_of_planned planned
  refine ⟨_, ran, ?_, ?_⟩ <;>
  · unfold Plan.present
    rw [json]
    rfl

theorem run_as_table (planned : request.plan lib host = .ok plan) (table : plan.format = .table) :
    ∃ result, request.run lib host = .ok result ∧
      result.status = plan.status (plan.report lib host.files) ∧
      result.printedObjects = (plan.report lib host.files).printed lib host.files plan.locale := by
  obtain ⟨log, ran⟩ := AuditRequest.run_of_planned planned
  refine ⟨_, ran, ?_, ?_⟩
  · unfold Plan.present
    rw [table]
    rfl
  · have silent : (plan.progress host.watched).flatMap Display.objects = [] := by
      unfold Plan.progress
      split <;> rfl
    have printed := printedObjects_printing (plan.status (plan.report lib host.files))
      ((plan.report lib host.files).printed lib host.files plan.locale)
    unfold Plan.present
    rw [table]
    dsimp only [RunResult.printedObjects] at printed ⊢
    rw [List.flatMap_append, silent, printed, List.nil_append]

end

/-! ## Agreement -/

/-- One run writes as data and the other prints as a table what a report says; the data are what is
read from the text. -/
structure SameReport (lib : Libraries) (json table : RunResult) (said : Substance) : Prop where
  status : json.status.code = table.status.code
  output : json.output = said.toJson.render ++ "\n"
  read : JsonValue.read? json.output = some said.toJson
  tables : table.tables.map Table.rows =
    if said.found.isEmpty then [] else [said.found.map (Found.toRow lib)]
  texts : table.texts =
    (if said.found.isEmpty then ["[bold green]✓ No unused styles found![/bold green]"] else []) ++
      said.skipped.map (skippedText lib) ++ said.summary

/-- Every file was either looked at or could not be opened. -/
structure Substance.AccountsFor (said : Substance) (fs : FileSystem) (files : List Path) : Prop where
  total : said.scanned + said.skipped.length = files.length
  skipped : said.skipped = (files.filter fun p => (fs.read? p).isNone).map (displayPath fs)
  languages : ∀ p ∈ files, p.language?.isSome = true

def Plan.substance (plan : Plan) (lib : Libraries) (fs : FileSystem) : Substance :=
  (plan.report lib fs).substance fs plan.locale

theorem isSkipped_fileReport {p : Path} (known : p.language?.isSome = true) (lib : Libraries)
    (fs : FileSystem) : (fileReport lib fs p).isSkipped = (fs.read? p).isNone := by
  obtain ⟨language, spoken⟩ := Option.isSome_iff_exists.1 known
  unfold fileReport FileReport.isSkipped
  cases read : fs.read? p <;> simp [spoken]

theorem verdict_eq (r : RunReport) (lib : Libraries) (fs : FileSystem) (locale : Locale) :
    (r.verdict lib fs locale).table?.toList.map Table.rows =
        (if (r.substance fs locale).found.isEmpty then []
          else [(r.substance fs locale).found.map (Found.toRow lib)]) ∧
      (r.verdict lib fs locale).text?.toList =
        if (r.substance fs locale).found.isEmpty then
          ["[bold green]✓ No unused styles found![/bold green]"] else [] := by
  unfold RunReport.verdict
  rw [r.findingCount_eq fs locale, ← r.rows_table lib fs locale]
  cases (r.substance fs locale).found <;> exact ⟨rfl, rfl⟩

theorem accountsFor_substance {plan : Plan} (lib : Libraries) (fs : FileSystem)
    (known : ∀ p ∈ plan.files, p.language?.isSome = true) :
    (plan.substance lib fs).AccountsFor fs plan.files where
  total := by
    have reports : (plan.report lib fs).files.length = plan.files.length := by
      simp [Plan.report]
    exact ((plan.report lib fs).scanned_add_skipped fs plan.locale).trans reports
  skipped := by
    have opened : plan.files.filter (fun p => (fileReport lib fs p).isSkipped) =
        plan.files.filter fun p => (fs.read? p).isNone :=
      List.filter_congr fun p member => isSkipped_fileReport (known p member) lib fs
    rw [← opened]
    simp [Plan.substance, Plan.report, RunReport.substance, RunReport.skipped, List.filter_map,
      Function.comp_def, fileReport]
  languages := known

theorem formats_agree (request : AuditRequest) (lib : Libraries) (host : Host) (plan : Plan)
    (planned : request.plan lib host = .ok plan) (terminal : Terminal)
    (complete : terminal.showsAll = .ok true) (platform : String) :
    ∃ json table, { request with format := "json" }.run lib host = .ok json ∧
      { request with format := "table" }.run lib host = .ok table ∧
      json.shownOn terminal platform = .ok json ∧ table.shownOn terminal platform = .ok table ∧
      SameReport lib json table (plan.substance lib host.files) ∧
      (plan.substance lib host.files).AccountsFor host.files (request.collection lib host).files := by
  have asJson : { request with format := "json" }.plan lib host = .ok { plan with format := .json } :=
    plan_of_format planned (by decide)
  have asTable : { request with format := "table" }.plan lib host =
      .ok { plan with format := .table } :=
    plan_of_format planned (by decide)
  obtain ⟨json, ranJson, statusJson, output⟩ := run_as_json asJson rfl
  obtain ⟨table, ranTable, statusTable, printed⟩ := run_as_table asTable rfl
  have written : json.output = (plan.substance lib host.files).toJson.render ++ "\n" := by
    rw [output, RunReport.data_eq]
    rfl
  rw [printed_eq] at printed
  obtain ⟨tables, texts⟩ := verdict_eq (plan.report lib host.files) lib host.files plan.locale
  obtain ⟨-, -, -, -, -, -, files⟩ := AuditRequest.plan_eq_ok_iff.1 planned
  refine ⟨json, table, ranJson, ranTable, RunResult.shownOn_of_showsAll complete _ platform,
    RunResult.shownOn_of_showsAll complete _ platform, ?_, ?_⟩
  · constructor
    · rw [statusJson, statusTable]
      rfl
    · exact written
    · rw [written, JsonValue.read?_render]
    · rw [tables_of_printed printed]
      exact tables
    · rw [texts_of_printed printed, List.append_assoc]
      exact congrArg (· ++ _) texts
  · rw [← files]
    refine accountsFor_substance lib host.files ?_
    rw [files]
    exact fun p member => Collection.language?_of_mem_ofPaths member

namespace Sample

def mixedPlan : Plan where
  environment := mixedHost.environment
  format := .table
  locale := .en
  fails := true
  files := [⟨"", ["b.TSX"]⟩, ⟨"", ["a.js"]⟩]

theorem mixedRequest_planned : mixedRequest.plan .builtin mixedHost = .ok mixedPlan := by
  refine AuditRequest.plan_eq_ok_iff.2 ⟨configuration_mixedHost, ?_, ?_, ?_, ?_, ?_, ?_⟩
  · decide +kernel
  · rw [effective_mixedHost]
    decide +kernel
  · rw [effective_mixedHost]
    decide +kernel
  · decide +kernel
  · exact effective_mixedHost.symm
  · decide +kernel

end Sample

open Sample in
theorem formats_agree_sample :
    mixedRequest.plan .builtin mixedHost = .ok mixedPlan ∧
    (Terminal.named "UTF-8").showsAll = .ok true ∧
    (mixedPlan.substance .builtin mixedHost.files).found.map (·.style) = ["box"] ∧
    ∃ json table, { mixedRequest with format := "json" }.run .builtin mixedHost = .ok json ∧
      { mixedRequest with format := "table" }.run .builtin mixedHost = .ok table ∧
      json.shownOn (.named "UTF-8") "linux" = .ok json ∧
      table.shownOn (.named "UTF-8") "linux" = .ok table ∧
      SameReport .builtin json table (mixedPlan.substance .builtin mixedHost.files) ∧
      (mixedPlan.substance .builtin mixedHost.files).AccountsFor mixedHost.files
        (mixedRequest.collection .builtin mixedHost).files := by
  have utf8 : Terminal.isUtf8Name (lowercase "UTF-8") = true := by decide +kernel
  have complete : (Terminal.named "UTF-8").showsAll = .ok true := congrArg Except.ok utf8
  exact ⟨mixedRequest_planned, complete, by decide +kernel, formats_agree mixedRequest .builtin
    mixedHost mixedPlan mixedRequest_planned (.named "UTF-8") complete "linux"⟩

end StyleAudit
