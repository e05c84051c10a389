import StyleAudit.Builtin
import StyleAudit.Proofs.Examination
import StyleAudit.Proofs.Plans
import StyleAudit.Proofs.Streams
import Mathlib.Tactic.Choose

/-!
# How an audit ends

An audit is refused because of its settings or arguments, or because a path leads nowhere; otherwise
it is carried out, and fails exactly if there are findings and findings make it fail. The main
statement gives the exit status in these terms. It adds that a refused audit shows nothing but the
faults and looks into no file, that no step of an audit that is not rejected can go wrong, and that the
run ends with this status on every stream that can encode what is written.

On other streams the run ends with a failure that nothing catches, although texts are meant to be put
out in a form that every terminal takes (`message_escapes_narrow_stream`).
-/

namespace StyleAudit

open Text

/-! ## Files -/

/-- What is reported on a file: the styles of its source that are never used, if it can be read. -/
def fileReport (lib : Libraries) (fs : FileSystem) (p : Path) : FileReport where
  path := p
  outcome := match p.language?, fs.read? p with
    | some language, some bytes =>
        some (Analyzer.unused (SymbolTable.empty.takeSites (lib.parse language bytes).sites))
    | _, _ => none

def Plan.report (plan : Plan) (lib : Libraries) (fs : FileSystem) : RunReport :=
  ⟨plan.files.map (fileReport lib fs)⟩

section

variable (lib : Libraries) (fs : FileSystem)

theorem analyzeFile_eq (p : Path) :
    ∃ log, analyzeFile lib fs p = .ok (fileReport lib fs p, log) := by
  unfold analyzeFile fileReport
  cases p.language? with
  | none => exact ⟨_, rfl⟩
  | some language =>
      cases fs.read? p with
      | none => exact ⟨_, rfl⟩
      | some bytes =>
          have analyzed := analyzeTree_eq_unused (lib.parse language bytes)
          unfold analyzeTree at analyzed
          dsimp only
          rcases examined : examine (lib.parse language bytes) with ⟨session, _ | misuse⟩
          · rw [examined] at analyzed
            simp only at analyzed
            simp only [analyzed]
            exact ⟨_, rfl⟩
          · rw [examined] at analyzed
            cases analyzed

theorem examineFiles_eq (plan : Plan) :
    ∃ log, plan.examineFiles lib fs = .ok (plan.report lib fs, log) := by
  choose log looked using analyzeFile_eq lib fs
  refine ⟨plan.files.flatMap log, ?_⟩
  rw [Plan.examineFiles, mapM_eq_ok_map looked]
  simp [bind, Except.bind, pure, Except.pure, Plan.report, Function.comp_def, List.flatMap_map]

theorem findings_fileReport {p : Path} {language : Language} {bytes : List UInt8}
    (known : p.language? = some language) (read : fs.read? p = some bytes) :
    analyzeTree (lib.parse language bytes) = .ok (fileReport lib fs p).findings := by
  simp only [analyzeTree_eq_unused, FileReport.findings, fileReport, known, read, Option.getD_some]

theorem findings_fileReport_ne_nil_iff {p : Path} :
    (fileReport lib fs p).findings ≠ [] ↔ ∃ language bytes findings,
      p.language? = some language ∧ fs.read? p = some bytes ∧
        analyzeTree (lib.parse language bytes) = .ok findings ∧ findings ≠ [] := by
  constructor
  · intro found
    cases known : p.language? with
    | none => simp [fileReport, FileReport.findings, known] at found
    | some language =>
        cases read : fs.read? p with
        | none => simp [fileReport, FileReport.findings, read] at found
        | some bytes =>
            exact ⟨language, bytes, _, rfl, rfl, findings_fileReport lib fs known read, found⟩
  · rintro ⟨language, bytes, findings, known, read, analyzed, nonempty⟩
    rw [findings_fileReport lib fs known read] at analyzed
    rwa [Except.ok.inj analyzed]

end

def HasFindingsIn (lib : Libraries) (fs : FileSystem) (files : List Path) : Prop :=
  ∃ p ∈ files, ∃ language bytes findings, p.language? = some language ∧ fs.read? p = some bytes ∧
    analyzeTree (lib.parse language bytes) = .ok findings ∧ findings ≠ []

/-! ## Refusals -/

theorem ReportFormat.ofName?_eq_none_iff {text : String} :
    ofName? text = none ↔ text ∉ names := by
  simp [ofName?, names]

namespace AuditRequest

/-- The settings or the arguments keep the audit from being carried out. -/
def Rejected (request : AuditRequest) (lib : Libraries) (host : Host) : Prop :=
  (∃ fault, host.configuration lib = .error fault) ∨
    request.format ∉ ReportFormat.names ∨
    request.localeCode (host.effective lib) ∉ Locale.codes

def LeadsNowhere (request : AuditRequest) (host : Host) : Prop :=
  ∃ p ∈ request.given, host.files.locate? p = none

/-- Some file of the audit has a style that is never used. -/
def HasFindings (request : AuditRequest) (lib : Libraries) (host : Host) : Prop :=
  HasFindingsIn lib host.files (request.collection lib host).files

/-- Findings or paths for which an audit fails. -/
def Fails (request : AuditRequest) (lib : Libraries) (host : Host) : Prop :=
  request.LeadsNowhere host ∨
    request.HasFindings lib host ∧ request.FailsOnFindings (host.effective lib)

variable {request : AuditRequest} {lib : Libraries} {host : Host}

theorem not_rejected_iff :
    ¬ request.Rejected lib host ↔ (∃ config, host.configuration lib = .ok config) ∧
      (∃ format, ReportFormat.ofName? request.format = some format) ∧
      ∃ locale, Locale.ofCode? (request.localeCode (host.effective lib)) = some locale := by
  unfold Rejected
  simp only [← ReportFormat.ofName?_eq_none_iff, ← Locale.ofCode?_eq_none_iff, not_or]
  refine and_congr ?_ (and_congr ?_ ?_)
  · cases host.configuration lib <;> simp
  · exact Option.ne_none_iff_exists'
  · exact Option.ne_none_iff_exists'

theorem missing_eq_nil_iff :
    (request.collection lib host).missing = [] ↔ ¬ request.LeadsNowhere host := by
  simp [collection, Collection.missing_ofPaths, LeadsNowhere]

/-- A configuration whose file of variables could be loaded is at worst refused. -/
theorem stop_of_loaded (loads : (lib.load host.envFile host.environment).2 = .ok ())
    {fault : ConfigFault} (faulty : host.configuration lib = .error fault) :
    ∃ reason, fault.stop = .refused (.configuration reason) := by
  unfold Host.configuration at faulty
  rcases (ConfigStore.ofEnvironment host.environment).construct_cases lib.load host.envFile with
    ⟨failure, fails, -⟩ | ⟨invalid, -, -, made⟩ | ⟨-, -, made⟩
  · cases loads.symm.trans fails
  · rw [made] at faulty
    cases faulty
    exact ⟨_, rfl⟩
  · rw [made] at faulty
    cases faulty

theorem plan_of_rejected (loads : (lib.load host.envFile host.environment).2 = .ok ())
    (rejected : request.Rejected lib host) :
    ∃ refusal, request.plan lib host = .error (.refused refusal) ∧ refusal.status = .rejected := by
  rw [plan_eq]
  split
  · rename_i fault faulty
    obtain ⟨reason, stop⟩ := stop_of_loaded loads faulty
    exact ⟨_, congrArg Except.error stop, rfl⟩
  · exact ⟨_, rfl, rfl⟩
  · exact ⟨_, rfl, rfl⟩
  · rename_i config format locale invalid made known supported chosen
    exact absurd rejected
      (not_rejected_iff.2 ⟨⟨config, made⟩, ⟨format, known⟩, ⟨locale, supported⟩⟩)
  · rename_i config format locale fails made known supported chosen
    exact absurd rejected
      (not_rejected_iff.2 ⟨⟨config, made⟩, ⟨format, known⟩, ⟨locale, supported⟩⟩)

theorem plan_of_accepted (accepted : ¬ request.Rejected lib host) :
    ∃ format locale fails, (fails = true ↔ request.FailsOnFindings (host.effective lib)) ∧
      request.plan lib host =
        if (request.collection lib host).missing = [] then
          .ok ⟨host.effective lib, format, locale, fails, (request.collection lib host).files⟩
        else .error (.refused (.missing (request.collection lib host).missing)) := by
  obtain ⟨⟨config, made⟩, ⟨format, known⟩, ⟨locale, supported⟩⟩ := not_rejected_iff.1 accepted
  have valid := ((host.configuration_eq_ok_iff lib).1 ⟨config, made⟩).2
  obtain ⟨fails, chosen, meaning⟩ := request.exists_chosenFailing valid
  refine ⟨format, locale, fails, meaning, ?_⟩
  rw [plan_eq, made, known, supported, chosen]

/-! ## Results -/

theorem run_of_refused {refusal : Refusal} (refused : request.plan lib host = .error (.refused refusal)) :
    request.run lib host = .ok (.printing refusal.status ((refusal.lines lib).map .text)) := by
  unfold run
  simp only [refused]

theorem run_of_planned {plan : Plan} (planned : request.plan lib host = .ok plan) :
    ∃ log, request.run lib host = .ok
      { plan.present lib host.files (plan.report lib host.files) with
        shown := plan.progress host.watched ++
          (plan.present lib host.files (plan.report lib host.files)).shown
        log } := by
  obtain ⟨log, examined⟩ := examineFiles_eq lib host.files plan
  unfold run Plan.execute
  simp only [planned, examined, bind, Except.bind, pure, Except.pure, Except.mapError]
  split
  · exact ⟨log, rfl⟩
  · exact ⟨[], rfl⟩

theorem status_present (plan : Plan) (fs : FileSystem) (report : RunReport) :
    (plan.present lib fs report).status = plan.status report := by
  unfold Plan.present
  cases plan.format <;> rfl

theorem findingCount_report (lib : Libraries) (fs : FileSystem) (plan : Plan) :
    (plan.report lib fs).findingCount ≠ 0 ↔ HasFindingsIn lib fs plan.files := by
  simp only [HasFindingsIn, ← findings_fileReport_ne_nil_iff]
  rw [RunReport.findingCount, ne_eq, List.length_eq_zero_iff, List.flatMap_eq_nil_iff]
  simp [Plan.report]

theorem status_report_cases (lib : Libraries) (fs : FileSystem) (plan : Plan) :
    plan.status (plan.report lib fs) = .failure ∧
        plan.fails = true ∧ HasFindingsIn lib fs plan.files ∨
      plan.status (plan.report lib fs) = .success ∧
        ¬ (plan.fails = true ∧ HasFindingsIn lib fs plan.files) := by
  rw [← findingCount_report]
  unfold Plan.status
  by_cases failed : plan.fails = true ∧ (plan.report lib fs).findingCount ≠ 0
  · refine .inl ⟨if_pos ?_, failed⟩
    rwa [Bool.and_eq_true, decide_eq_true_eq]
  · refine .inr ⟨if_neg ?_, failed⟩
    rwa [Bool.and_eq_true, decide_eq_true_eq]

end AuditRequest

/-- A result that consists of errors alone: no report in any form, and no remark on any file. -/
structure RunResult.OnlyErrors (result : RunResult) : Prop where
  output : result.output = ""
  log : result.log = []
  shown : ∀ display ∈ result.shown, ∃ text, display = .print [.text ("[bold red]" ++ text)]

theorem text_of_mem_lines (lib : Libraries) (refusal : Refusal) :
    ∀ line ∈ refusal.lines lib, ∃ text, line = "[bold red]" ++ text := by
  have error : ∀ text, Refusal.errorLine text = "[bold red]" ++ ("Error:[/bold red] " ++ text) := by
    intro text
    rw [← String.append_assoc]
    rfl
  intro line member
  cases refusal with
  | configuration reason =>
      refine ⟨"Configuration error:[/bold red] " ++ lib.escape reason, ?_⟩
      rw [← String.append_assoc]
      exact List.mem_singleton.1 member
  | unknownFormat name => exact ⟨_, (List.mem_singleton.1 member).trans (error _)⟩
  | unsupportedLocale code => exact ⟨_, (List.mem_singleton.1 member).trans (error _)⟩
  | missing paths =>
      obtain ⟨p, -, rfl⟩ := List.mem_map.1 member
      exact ⟨_, error _⟩

theorem onlyErrors_printing (lib : Libraries) (status : ExitStatus) (refusal : Refusal) :
    (RunResult.printing status ((refusal.lines lib).map .text)).OnlyErrors where
  output := rfl
  log := rfl
  shown display member := by
    simp only [RunResult.printing, List.map_map, List.mem_map] at member
    obtain ⟨line, listed, rfl⟩ := member
    obtain ⟨text, rfl⟩ := text_of_mem_lines lib refusal line listed
    exact ⟨text, rfl⟩

/-! ## Contents that do not matter -/

namespace FileSystem

/-- The same places, with other files at them. -/
def withContents (fs : FileSystem) (replace : Place → FileData → FileData) : FileSystem :=
  { fs with files := fs.files.map fun entry => (entry.1, replace entry.1 entry.2) }

variable (fs : FileSystem) (replace : Place → FileData → FileData)

theorem isFile_withContents (place : Place) :
    (fs.withContents replace).isFile place = fs.isFile place := by
  simp [isFile, file?, withContents, List.find?_map, Function.comp_def]

theorem isDirectory_withContents (place : Place) :
    (fs.withContents replace).isDirectory place = fs.isDirectory place := by
  simp only [isDirectory, isFile_withContents]
  simp [withContents, Function.comp_def]

theorem locate?_withContents (p : Path) : (fs.withContents replace).locate? p = fs.locate? p := by
  have step : (fs.withContents replace).step? = fs.step? := by
    funext place part
    simp only [step?, isFile_withContents, isDirectory_withContents]
  rw [locate?, step, locate?]
  rfl

end FileSystem

def Host.withContents (host : Host) (replace : Place → FileData → FileData) : Host :=
  { host with files := host.files.withContents replace }

theorem plan_withContents {request : AuditRequest} {lib : Libraries} {host : Host} {stop : Stop}
    (stopped : request.plan lib host = .error stop) {replace : Place → FileData → FileData}
    (same : (host.withContents replace).envFile = host.envFile) :
    request.plan lib (host.withContents replace) = .error stop := by
  have effective : (host.withContents replace).effective lib = host.effective lib := by
    rw [Host.effective, same]
    rfl
  have configuration : (host.withContents replace).configuration lib = host.configuration lib := by
    rw [Host.configuration, same]
    rfl
  have missing : (request.collection lib (host.withContents replace)).missing =
      (request.collection lib host).missing := by
    simp only [AuditRequest.collection, Collection.missing_ofPaths, Host.withContents,
      FileSystem.locate?_withContents]
  rw [AuditRequest.plan_eq] at stopped ⊢
  rw [effective, configuration, missing]
  -- The two plans could only differ in the files to look at, and then nothing is refused.
  split at stopped
  · exact stopped
  · exact stopped
  · exact stopped
  · exact stopped
  · by_cases complete : (request.collection lib host).missing = []
    · simp only [if_pos complete] at stopped
      cases stopped
    · simp only [if_neg complete] at stopped ⊢
      exact stopped

/-! ## Steps that could go wrong -/

theorem ofName_name (language : Language) : Language.ofName language.name = .ok language := by
  cases language <;> rfl

/-- Steps of an audit that can be asked for what they do not have: the parser for the suffix of each
file, and the message of each finding. -/
structure AuditRequest.NothingEscapes (request : AuditRequest) (lib : Libraries) (host : Host) : Prop where
  parsers : ∀ p ∈ (request.collection lib host).files,
    ∃ language, p.language? = some language ∧ Language.ofName language.name = .ok language
  messages : ∃ locale, Locale.ofCode? (request.localeCode (host.effective lib)) = some locale ∧
    ∀ f : Finding,
      f.message (request.localeCode (host.effective lib)) = .ok (f.messageIn locale)

theorem nothingEscapes {request : AuditRequest} {lib : Libraries} {host : Host}
    (accepted : ¬ request.Rejected lib host) : request.NothingEscapes lib host where
  parsers p member := by
    have known := Collection.language?_of_mem_ofPaths member
    obtain ⟨language, spoken⟩ := Option.isSome_iff_exists.1 known
    exact ⟨language, spoken, ofName_name language⟩
  messages := by
    obtain ⟨-, -, ⟨locale, supported⟩⟩ := AuditRequest.not_rejected_iff.1 accepted
    refine ⟨locale, supported, fun f => ?_⟩
    simp [Finding.message, unusedStyleMessage, supported, Finding.messageIn]

/-! ## The exit status -/

section

variable {request : AuditRequest} {lib : Libraries} {host : Host}

theorem plan_of_leadsNowhere (accepted : ¬ request.Rejected lib host)
    (missing : request.LeadsNowhere host) :
    request.plan lib host = .error (.refused (.missing (request.collection lib host).missing)) := by
  obtain ⟨format, locale, fails, -, planned⟩ := AuditRequest.plan_of_accepted accepted
  have nonempty : ¬ (request.collection lib host).missing = [] := fun none =>
    AuditRequest.missing_eq_nil_iff.1 none missing
  rw [planned, if_neg nonempty]

theorem exists_result_of_carriedOut (accepted : ¬ request.Rejected lib host)
    (present : ¬ request.LeadsNowhere host) :
    ∃ result, request.run lib host = .ok result ∧
      (result.status = .failure ∧ request.Fails lib host ∨
        result.status = .success ∧ ¬ request.Fails lib host) := by
  obtain ⟨format, locale, fails, meaning, planned⟩ := AuditRequest.plan_of_accepted accepted
  rw [if_pos (AuditRequest.missing_eq_nil_iff.2 present)] at planned
  obtain ⟨log, ran⟩ := AuditRequest.run_of_planned planned
  refine ⟨_, ran, ?_⟩
  dsimp only
  rw [AuditRequest.status_present]
  have failed := AuditRequest.status_report_cases lib host.files ⟨host.effective lib, format, locale,
    fails, (request.collection lib host).files⟩
  dsimp only at failed
  rw [meaning] at failed
  rcases failed with ⟨status, failing, found⟩ | ⟨status, passing⟩
  · exact .inl ⟨status, .inr ⟨found, failing⟩⟩
  · refine .inr ⟨status, fun fails => ?_⟩
    obtain ⟨found, failing⟩ := fails.resolve_left present
    exact passing ⟨failing, found⟩

theorem status_cases (request : AuditRequest)
    (loads : (lib.load host.envFile host.environment).2 = .ok ()) :
    ∃ result, request.run lib host = .ok result ∧
      (result.status = .rejected ∧ request.Rejected lib host ∨
        result.status = .failure ∧ ¬ request.Rejected lib host ∧ request.Fails lib host ∨
        result.status = .success ∧ ¬ request.Rejected lib host ∧ ¬ request.Fails lib host) := by
  by_cases rejected : request.Rejected lib host
  · obtain ⟨refusal, refused, status⟩ := AuditRequest.plan_of_rejected loads rejected
    exact ⟨_, AuditRequest.run_of_refused refused, .inl ⟨status, rejected⟩⟩
  · by_cases missing : request.LeadsNowhere host
    · exact ⟨_, AuditRequest.run_of_refused (plan_of_leadsNowhere rejected missing),
        .inr (.inl ⟨rfl, rejected, .inl missing⟩)⟩
    · obtain ⟨result, ran, ⟨status, fails⟩ | ⟨status, passes⟩⟩ :=
        exists_result_of_carriedOut rejected missing
      · exact ⟨result, ran, .inr (.inl ⟨status, rejected, fails⟩)⟩
      · exact ⟨result, ran, .inr (.inr ⟨status, rejected, passes⟩)⟩

theorem refused_of_faulty (loads : (lib.load host.envFile host.environment).2 = .ok ())
    (faulty : request.Rejected lib host ∨ request.LeadsNowhere host) :
    ∃ refusal, request.plan lib host = .error (.refused refusal) := by
  by_cases rejected : request.Rejected lib host
  · obtain ⟨refusal, refused, -⟩ := AuditRequest.plan_of_rejected loads rejected
    exact ⟨refusal, refused⟩
  · exact ⟨_, plan_of_leadsNowhere rejected (faulty.resolve_left rejected)⟩

theorem run_of_faulty (loads : (lib.load host.envFile host.environment).2 = .ok ())
    (faulty : request.Rejected lib host ∨ request.LeadsNowhere host) {result : RunResult}
    (ran : request.run lib host = .ok result) :
    result.OnlyErrors ∧ ∀ replace, (host.withContents replace).envFile = host.envFile →
      request.run lib (host.withContents replace) = .ok result := by
  obtain ⟨refusal, refused⟩ := refused_of_faulty loads faulty
  obtain rfl := Except.ok.inj ((AuditRequest.run_of_refused refused).symm.trans ran)
  refine ⟨onlyErrors_printing lib refusal.status refusal, ?_⟩
  intro replace same
  exact AuditRequest.run_of_refused (plan_withContents refused same)

theorem runOn_of_run {result : RunResult} (ran : request.run lib host = .ok result) (stream : Stream) :
    request.runOn lib host stream = result.writeTo lib stream := by
  rw [AuditRequest.runOn, ran]
  rfl

theorem ends_on_streams {result : RunResult} (ran : request.run lib host = .ok result) (stream : Stream) :
    (result.Writable lib stream → request.runOn lib host stream = .ok result.status) ∧
      (stream.terminal.showsAll = .ok true → (∀ c, stream.encodes c = true) →
        request.runOn lib host stream = .ok result.status) ∧
      (¬ result.Writable lib stream → ∃ escape, request.runOn lib host stream = .error escape ∧
        result.Blocks lib stream escape) := by
  rw [runOn_of_run ran]
  refine ⟨RunResult.writeTo_of_writable, fun complete encodes => ?_, RunResult.exists_escape⟩
  exact RunResult.writeTo_of_writable (RunResult.writable_of_showsAll complete encodes)

end

theorem ExitStatus.codes_of_cases {status : ExitStatus} {rejected fails : Prop}
    (outcome : status = .rejected ∧ rejected ∨ status = .failure ∧ ¬ rejected ∧ fails ∨
      status = .success ∧ ¬ rejected ∧ ¬ fails) :
    (status.code = 2 ↔ rejected) ∧ (status.code = 1 ↔ ¬ rejected ∧ fails) ∧
      (status.code = 0 ↔ ¬ rejected ∧ ¬ fails) := by
  rcases outcome with ⟨rfl, rejected⟩ | ⟨rfl, accepted, fails⟩ | ⟨rfl, accepted, passes⟩
  · simp [code, rejected]
  · simp [code, accepted, fails]
  · simp [code, accepted, passes]

theorem audit_exit_status (request : AuditRequest) (lib : Libraries) (host : Host)
    (loads : (lib.load host.envFile host.environment).2 = .ok ()) :
    ∃ result, request.run lib host = .ok result ∧
      (result.status.code = 2 ↔ request.Rejected lib host) ∧
      (result.status.code = 1 ↔ ¬ request.Rejected lib host ∧ (request.LeadsNowhere host ∨
        request.HasFindings lib host ∧ request.FailsOnFindings (host.effective lib))) ∧
      (result.status.code = 0 ↔ ¬ request.Rejected lib host ∧ ¬ (request.LeadsNowhere host ∨
        request.HasFindings lib host ∧ request.FailsOnFindings (host.effective lib))) ∧
      (¬ request.Rejected lib host → request.NothingEscapes lib host) ∧
      (request.Rejected lib host ∨ request.LeadsNowhere host → result.OnlyErrors ∧
        ∀ replace, (host.withContents replace).envFile = host.envFile →
          request.run lib (host.withContents replace) = .ok result) ∧
      ∀ stream,
        (result.Writable lib stream → request.runOn lib host stream = .ok result.status) ∧
        (stream.terminal.showsAll = .ok true → (∀ c, stream.encodes c = true) →
          request.runOn lib host stream = .ok result.status) ∧
        (¬ result.Writable lib stream → ∃ escape, request.runOn lib host stream = .error escape ∧
          result.Blocks lib stream escape) := by
  obtain ⟨result, ran, outcome⟩ := status_cases request loads
  obtain ⟨two, one, zero⟩ := ExitStatus.codes_of_cases outcome
  exact ⟨result, ran, two, one, zero, nothingEscapes, fun faulty => run_of_faulty loads faulty ran,
    ends_on_streams ran⟩

namespace Sample

theorem envFile_eq_none {host : Host} (absent : host.files.locate? (.ofString envFileName) = none) :
    host.envFile = none := by
  rw [Host.envFile, FileSystem.fileAt?, absent, Option.bind_none]

/-- A file with an unused style next to one that cannot be opened, in an unattended job. -/
def mixedHost : Host where
  files :=
    { files :=
        [(["app", "a.js"],
            ⟨"const s = StyleSheet.create(\x7b box: \x7b\x7d \x7d);".toUTF8.toList, true⟩),
          (["app", "b.TSX"], ⟨[], false⟩)]
      directories := []
      cwd := ["app"] }
  environment := Registry.empty.put "CI" "1"
  watched := false

theorem envFile_mixedHost : mixedHost.envFile = none := envFile_eq_none (by decide +kernel)

theorem loads_mixedHost :
    (Libraries.builtin.load mixedHost.envFile mixedHost.environment).2 = .ok () := by
  rw [envFile_mixedHost]
  rfl

theorem effective_mixedHost : mixedHost.effective .builtin = mixedHost.environment := by
  rw [Host.effective, envFile_mixedHost]
  rfl

theorem configuration_mixedHost : ∃ config, mixedHost.configuration .builtin = .ok config := by
  refine (mixedHost.configuration_eq_ok_iff .builtin).2 ⟨loads_mixedHost, ?_⟩
  rw [effective_mixedHost]
  decide +kernel

theorem accepted_mixedHost (paths : List String) :
    ¬ { AuditRequest.standard with paths }.Rejected .builtin mixedHost := by
  have format : ReportFormat.ofName? AuditRequest.standard.format = some .table := by decide +kernel
  have locale : Locale.ofCode? (AuditRequest.standard.localeCode (mixedHost.effective .builtin)) =
      some .en := by
    decide +kernel
  exact AuditRequest.not_rejected_iff.2 ⟨configuration_mixedHost, ⟨.table, format⟩, ⟨.en, locale⟩⟩

def mixedRequest : AuditRequest := { AuditRequest.standard with paths := ["b.TSX", "./a.js"] }

/-- A path that leads nowhere behind one that leads to a finding. -/
def misspelledRequest : AuditRequest := { AuditRequest.standard with paths := ["a.js", "c.js"] }

theorem hasFindings_mixedRequest : mixedRequest.HasFindings .builtin mixedHost := by
  refine ⟨⟨"", ["a.js"]⟩, by decide +kernel, .javascript, _, _, by decide +kernel, rfl,
    analyzeTree_eq_unused _, ?_⟩
  decide +kernel

def utf8 : Stream := ⟨.named "utf-8", "linux", fun _ => true⟩

/-- No setting says whether findings make the run fail, but the job is unattended. -/
theorem decides_mixedHost : Settings.Decides (mixedHost.effective .builtin).get? true := by
  rw [effective_mixedHost]
  exact .unworded (fun _ given => nomatch given) ⟨fun _ => ⟨"CI", by decide, "1", rfl, by decide⟩,
    fun _ => rfl⟩

end Sample

open Sample in
theorem audit_exit_status_sample :
    (Libraries.builtin.load mixedHost.envFile mixedHost.environment).2 = .ok () ∧
    (¬ misspelledRequest.Rejected .builtin mixedHost ∧ misspelledRequest.LeadsNowhere mixedHost ∧
      ∃ result, misspelledRequest.run .builtin mixedHost = .ok result ∧ result.status.code = 1 ∧
        result.OnlyErrors) ∧
    ¬ mixedRequest.Rejected .builtin mixedHost ∧ ¬ mixedRequest.LeadsNowhere mixedHost ∧
      mixedRequest.HasFindings .builtin mixedHost ∧
      mixedRequest.FailsOnFindings (mixedHost.effective .builtin) ∧
      ∃ result, mixedRequest.run .builtin mixedHost = .ok result ∧ result.status.code = 1 ∧
        mixedRequest.runOn .builtin mixedHost utf8 = .ok result.status := by
  have fails : mixedRequest.FailsOnFindings (mixedHost.effective .builtin) :=
    .inr ⟨rfl, decides_mixedHost⟩
  have accepted : ¬ misspelledRequest.Rejected .builtin mixedHost := accepted_mixedHost _
  have acceptedToo : ¬ mixedRequest.Rejected .builtin mixedHost := accepted_mixedHost _
  have missing : misspelledRequest.LeadsNowhere mixedHost :=
    ⟨⟨"", ["c.js"]⟩, by decide +kernel, by decide +kernel⟩
  have listed : (mixedRequest.collection .builtin mixedHost).missing = [] := by decide +kernel
  have present : ¬ mixedRequest.LeadsNowhere mixedHost := AuditRequest.missing_eq_nil_iff.1 listed
  refine ⟨loads_mixedHost, ⟨accepted, missing, ?_⟩, acceptedToo, present, hasFindings_mixedRequest,
    fails, ?_⟩
  · obtain ⟨result, ran, -, failure, -, -, silent, -⟩ :=
      audit_exit_status misspelledRequest .builtin mixedHost loads_mixedHost
    exact ⟨result, ran, failure.2 ⟨accepted, .inl missing⟩, (silent (.inr missing)).1⟩
  · obtain ⟨result, ran, -, failure, -, -, -, streams⟩ :=
      audit_exit_status mixedRequest .builtin mixedHost loads_mixedHost
    have complete : utf8.terminal.showsAll = .ok true := by decide +kernel
    exact ⟨result, ran, failure.2 ⟨acceptedToo, .inr ⟨hasFindings_mixedRequest, fails⟩⟩,
      (streams utf8).2.1 complete fun _ => rfl⟩

namespace Sample

/-- The encoding of Windows for western languages. -/
def isWindows1252 (c : Char) : Bool :=
  c.toNat < 0x80 || 0xa0 ≤ c.toNat && c.toNat ≤ 0xff ||
    ['€', '‚', 'ƒ', '„', '…', '†', '‡', 'ˆ', '‰', 'Š', '‹', 'Œ', 'Ž', '‘', '’', '“', '”', '•', '–',
      '—', '˜', '™', 'š', '›', 'œ', 'ž', 'Ÿ'].contains c

def windows1252 : Stream := ⟨.named "cp1252", "linux", isWindows1252⟩

def oneStyleHost : Host where
  files :=
    { files := [(["app", "f.js"],
        ⟨"const s = StyleSheet.create(\x7b box: \x7b\x7d \x7d);".toUTF8.toList, true⟩)]
      directories := []
      cwd := ["app"] }
  environment := .empty
  watched := false

def japaneseRequest : AuditRequest :=
  { AuditRequest.standard with format := "json", locale := some "ja", paths := ["f.js"] }

def japanesePlan : Plan where
  environment := .empty
  format := .json
  locale := .ja
  fails := false
  files := [⟨"", ["f.js"]⟩]

theorem written_builtin {result : RunResult} (nothing : result.shown = []) (terminal : Terminal) :
    result.written .builtin terminal = result.output := by
  rw [RunResult.written_of_shown_eq_nil nothing]
  split
  · rename_i empty
    exact (String.isEmpty_iff.1 empty).symm
  · rfl

end Sample

open Sample in
theorem message_escapes_narrow_stream :
    (Libraries.builtin.load oneStyleHost.envFile oneStyleHost.environment).2 = .ok () ∧
    ¬ japaneseRequest.Rejected .builtin oneStyleHost ∧ ¬ japaneseRequest.LeadsNowhere oneStyleHost ∧
    ¬ japaneseRequest.FailsOnFindings (oneStyleHost.effective .builtin) ∧
    japaneseRequest.runOn .builtin oneStyleHost windows1252 = .error (.unencodable 'ス') := by
  have absent : oneStyleHost.envFile = none := envFile_eq_none (by decide +kernel)
  have effective : oneStyleHost.effective .builtin = .empty := by
    rw [Host.effective, absent]
    rfl
  have loads : (Libraries.builtin.load oneStyleHost.envFile oneStyleHost.environment).2 = .ok () := by
    rw [absent]
    rfl
  have made : ∃ config, oneStyleHost.configuration .builtin = .ok config := by
    refine (oneStyleHost.configuration_eq_ok_iff .builtin).2 ⟨loads, ?_⟩
    rw [effective]
    decide +kernel
  have planned : japaneseRequest.plan .builtin oneStyleHost = .ok japanesePlan := by
    refine AuditRequest.plan_eq_ok_iff.2 ⟨made, by decide +kernel, ?_, ?_, by decide +kernel,
      effective.symm, by decide +kernel⟩
    · rw [effective]
      decide +kernel
    · rw [effective]
      decide +kernel
  have listed : (japaneseRequest.collection .builtin oneStyleHost).missing = [] := by decide +kernel
  refine ⟨loads, AuditRequest.not_rejected_iff.2 ⟨made, ⟨.json, by decide⟩, ⟨.ja, ?_⟩⟩,
    AuditRequest.missing_eq_nil_iff.1 listed, ?_, ?_⟩
  · rw [effective]
    decide +kernel
  · rw [effective]
    rintro (asked | ⟨-, decides⟩)
    · cases asked
    · cases decides with
      | worded given _ _ => cases given
      | unworded _ marked =>
          obtain ⟨name, -, mark, given, -⟩ := marked.1 rfl
          cases given
  · obtain ⟨log, ran⟩ := AuditRequest.run_of_planned planned
    have encoding : windows1252.terminal.encoding = .ok "cp1252" := by
      unfold Terminal.encoding
      decide +kernel
    have refused : windows1252.write (japanesePlan.present .builtin oneStyleHost.files
        (japanesePlan.report .builtin oneStyleHost.files)).output = .error (.unencodable 'ス') := by
      decide +kernel
    have shown := RunResult.shownOn_of_encoding encoding (by decide)
    rw [runOn_of_run ran, RunResult.writeTo_of_shownOn (shown _ _), written_builtin rfl]
    exact congrArg (Except.map fun _ => _) refused

end StyleAudit
