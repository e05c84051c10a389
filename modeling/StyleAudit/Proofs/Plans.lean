import StyleAudit.Audit
import StyleAudit.Proofs.SettingsCheck

/-!
# How an audit is planned

`AuditRequest.plan_eq` gives the plan of an audit as one case distinction over what the configuration,
the arguments and the file system say, in the order in which faults are looked for. Settings that passed
the check when the configuration was made are read again without a fault, so its case of a setting that
escapes never comes up (`AuditRequest.exists_chosenFailing`); and a collection holds exactly the paths
that lead nowhere, and files of known languages only.
-/

namespace StyleAudit

open Text

/-! ## Configurations -/

namespace ConfigStore

variable (store : ConfigStore) (load : Loader) (file : Option FileData)

/-- The variables after a file of variables has been loaded, as far as that went. -/
def loaded : Environment := (load file store.environment).1

theorem construct_cases :
    (∃ failure, (load file store.environment).2 = .error failure ∧
      store.construct load file =
        ({ store with environment := store.loaded load file }, .error (.loading failure))) ∨
    (∃ invalid, (load file store.environment).2 = .ok () ∧
      (store.loaded load file).validate = .error invalid ∧
      store.construct load file =
        ({ store with environment := store.loaded load file }, .error (.setting invalid))) ∨
    ((load file store.environment).2 = .ok () ∧ (store.loaded load file).validate = .ok () ∧
      store.construct load file =
        ({ store with environment := store.loaded load file, made := store.made + 1 },
          .ok ⟨store.made⟩)) := by
  unfold construct loaded
  rcases load file store.environment with ⟨env, failure | _⟩
  · exact .inl ⟨failure, rfl, rfl⟩
  · dsimp only
    cases env.validate with
    | error invalid => exact .inr (.inl ⟨invalid, rfl, rfl, rfl⟩)
    | ok _ => exact .inr (.inr ⟨rfl, rfl, rfl⟩)

end ConfigStore

namespace Host

variable (host : Host) (lib : Libraries)

/-- What a run finds in the place of the file of variables. -/
def envFile : Option FileData := host.files.fileAt? (.ofString envFileName)

/-- The variables of a run once the file of variables has been loaded. -/
def effective : Environment := (lib.load host.envFile host.environment).1

def configuration : Except ConfigFault Config :=
  ((ConfigStore.ofEnvironment host.environment).construct lib.load host.envFile).2

theorem configuration_eq_ok_iff :
    (∃ config, host.configuration lib = .ok config) ↔
      (lib.load host.envFile host.environment).2 = .ok () ∧
        (host.effective lib).validate = .ok () := by
  unfold configuration effective
  rcases (ConfigStore.ofEnvironment host.environment).construct_cases lib.load host.envFile with
    ⟨failure, fails, made⟩ | ⟨invalid, loads, checked, made⟩ | ⟨loads, checked, made⟩
  · rw [made, show (lib.load host.envFile host.environment).2 = .error failure from fails]
    simp
  · rw [made, show (lib.load host.envFile host.environment).1.validate = .error invalid from checked]
    simp
  · rw [made]
    exact ⟨fun _ => ⟨loads, checked⟩, fun _ => ⟨_, rfl⟩⟩

end Host

theorem configured_eq (lib : Libraries) (host : Host) :
    configured lib host = match host.configuration lib with
      | .ok _ => .ok (host.effective lib)
      | .error fault => .error fault.stop := by
  unfold configured ConfigStore.get Host.configuration Host.effective Host.envFile
  dsimp only [ConfigStore.ofEnvironment]
  rcases ConfigStore.construct_cases ⟨host.environment, none, 0⟩ lib.load
    (host.files.fileAt? (.ofString envFileName)) with
    ⟨failure, -, made⟩ | ⟨invalid, -, -, made⟩ | ⟨-, -, made⟩ <;> simp only [made]
  rfl

/-! ## Collections -/

namespace Collection

theorem missing_foldl_take (fs : FileSystem) (paths : List Path) (c : Collection) :
    (paths.foldl (take fs) c).missing = c.missing := by
  induction paths generalizing c with
  | nil => rfl
  | cons p rest ih =>
      rw [List.foldl_cons, ih, take]
      split <;> rfl

theorem missing_foldl_add (fs : FileSystem) (excluded : NameSet) (paths : List Path)
    (c : Collection) :
    (paths.foldl (add fs excluded) c).missing =
      c.missing ++ paths.filter fun p => (fs.locate? p).isNone := by
  induction paths generalizing c with
  | nil => simp
  | cons p rest ih =>
      rw [List.foldl_cons, ih, add]
      cases located : fs.locate? p with
      | some place => simp [located, missing_foldl_take]
      | none => simp [located]

theorem missing_ofPaths (fs : FileSystem) (excluded : NameSet) (paths : List Path) :
    (ofPaths fs excluded paths).missing = paths.filter fun p => (fs.locate? p).isNone := by
  rw [ofPaths, missing_foldl_add]
  rfl

theorem language?_of_mem_candidates {fs : FileSystem} {excluded : NameSet} {p q : Path}
    {place : Place} (member : q ∈ candidates fs excluded p place) : q.language?.isSome = true := by
  unfold candidates at member
  split at member
  · split at member
    · rename_i known
      rw [List.mem_singleton.1 member]
      exact known
    · cases member
  · obtain ⟨names, found, rfl⟩ := List.mem_map.1 member
    have kept := (List.mem_filter.1 (List.mem_mergeSort.1 found)).2
    exact (Bool.and_eq_true_iff.1 kept).1

theorem mem_foldl_take {fs : FileSystem} {paths : List Path} {c : Collection} {p : Path}
    (member : p ∈ (paths.foldl (take fs) c).files) : p ∈ c.files ∨ p ∈ paths := by
  induction paths generalizing c with
  | nil => exact .inl member
  | cons q rest ih =>
      rcases ih member with before | later
      · unfold take at before
        split at before
        · exact .inl before
        · rcases List.mem_append.1 before with old | new
          · exact .inl old
          · exact .inr (List.mem_singleton.1 new ▸ List.mem_cons_self)
      · exact .inr (List.mem_cons_of_mem _ later)

theorem language?_of_mem_foldl_add {fs : FileSystem} {excluded : NameSet} {paths : List Path}
    {c : Collection} (known : ∀ p ∈ c.files, p.language?.isSome = true) {p : Path}
    (member : p ∈ (paths.foldl (add fs excluded) c).files) : p.language?.isSome = true := by
  induction paths generalizing c with
  | nil => exact known p member
  | cons q rest ih =>
      refine ih (c := add fs excluded c q) ?_ member
      intro other taken
      unfold add at taken
      split at taken
      · rcases mem_foldl_take taken with old | new
        · exact known other old
        · exact language?_of_mem_candidates new
      · exact known other taken

theorem language?_of_mem_ofPaths {fs : FileSystem} {excluded : NameSet} {paths : List Path}
    {p : Path} (member : p ∈ (ofPaths fs excluded paths).files) : p.language?.isSome = true :=
  language?_of_mem_foldl_add (c := empty) (by simp [empty]) member

end Collection

/-! ## Plans -/

namespace AuditRequest

def given (request : AuditRequest) : List Path :=
  (if request.paths.isEmpty then ["."] else request.paths).map Path.ofString

/-- The code of the language for messages: as asked for unless that is empty, else as set. -/
def localeCode (request : AuditRequest) (env : Environment) : String :=
  lowercase ((request.locale.filter fun code => !code.isEmpty).getD env.locale)

/-- Findings make the run fail: as asked for, else as the variables say. -/
def FailsOnFindings (request : AuditRequest) (env : Environment) : Prop :=
  request.failsOnFindings = some true ∨
    request.failsOnFindings = none ∧ Settings.Decides env.get? true

def collection (request : AuditRequest) (lib : Libraries) (host : Host) : Collection :=
  .ofPaths host.files (host.effective lib).exclusions request.given

theorem exists_chosenFailing (request : AuditRequest) {env : Environment}
    (valid : env.validate = .ok ()) :
    ∃ fails, chosenFailing env request.failsOnFindings = .ok fails ∧
      (fails = true ↔ request.FailsOnFindings env) := by
  unfold chosenFailing FailsOnFindings
  cases request.failsOnFindings with
  | some choice => exact ⟨choice, rfl, by simp⟩
  | none =>
      obtain ⟨answer, read, decides⟩ :=
        Environment.exists_decided (Environment.validate_eq_ok_iff.1 valid).2
      refine ⟨answer, read, ?_⟩
      simp only [reduceCtorEq, false_or, true_and]
      exact ⟨fun yes => yes ▸ decides, fun yes => decides.unique _ yes⟩

theorem chosenLocale_eq (request : AuditRequest) (env : Environment) :
    chosenLocale env request.locale =
      match Locale.ofCode? (request.localeCode env) with
      | some locale => .ok locale
      | none => .error (.unsupportedLocale (request.localeCode env)) := by
  unfold chosenLocale localeCode
  rfl

section

variable (request : AuditRequest) (lib : Libraries) (host : Host)

theorem chosenFiles_eq :
    chosenFiles host.files (host.effective lib) request.paths =
      if (request.collection lib host).missing = [] then .ok (request.collection lib host).files
      else .error (.missing (request.collection lib host).missing) := by
  unfold chosenFiles collection given
  simp only [List.isEmpty_iff]

theorem plan_eq :
    request.plan lib host =
      match host.configuration lib, ReportFormat.ofName? request.format,
        Locale.ofCode? (request.localeCode (host.effective lib)),
        chosenFailing (host.effective lib) request.failsOnFindings with
      | .error fault, _, _, _ => .error fault.stop
      | .ok _, none, _, _ => .error (.refused (.unknownFormat request.format))
      | .ok _, some _, none, _ =>
          .error (.refused (.unsupportedLocale (request.localeCode (host.effective lib))))
      | .ok _, some _, some _, .error invalid => .error (.escaped (.setting invalid))
      | .ok _, some format, some locale, .ok fails =>
          if (request.collection lib host).missing = [] then
            .ok ⟨host.effective lib, format, locale, fails, (request.collection lib host).files⟩
          else .error (.refused (.missing (request.collection lib host).missing)) := by
  rw [plan, configured_eq]
  cases host.configuration lib with
  | error fault => rfl
  | ok config =>
      simp only [chosenFormat, chosenLocale_eq, chosenFiles_eq, bind, Except.bind]
      cases ReportFormat.ofName? request.format with
      | none => rfl
      | some format =>
          cases Locale.ofCode? (request.localeCode (host.effective lib)) with
          | none => rfl
          | some locale =>
              cases chosenFailing (host.effective lib) request.failsOnFindings with
              | error invalid => rfl
              | ok fails =>
                  by_cases complete : (request.collection lib host).missing = []
                  · simp only [if_pos complete]
                    rfl
                  · simp only [if_neg complete]
                    rfl

end

theorem plan_eq_ok_iff {request : AuditRequest} {lib : Libraries} {host : Host} {plan : Plan} :
    request.plan lib host = .ok plan ↔
      (∃ config, host.configuration lib = .ok config) ∧
      ReportFormat.ofName? request.format = some plan.format ∧
      Locale.ofCode? (request.localeCode (host.effective lib)) = some plan.locale ∧
      chosenFailing (host.effective lib) request.failsOnFindings = .ok plan.fails ∧
      (request.collection lib host).missing = [] ∧
      plan.environment = host.effective lib ∧ plan.files = (request.collection lib host).files := by
  rw [plan_eq]
  constructor
  · intro planned
    split at planned
    · cases planned
    · cases planned
    · cases planned
    · cases planned
    · rename_i config format locale fails made known supported chosen
      split at planned
      · rename_i complete
        cases planned
        exact ⟨⟨config, made⟩, known, supported, chosen, complete, rfl, rfl⟩
      · cases planned
  · rintro ⟨⟨config, made⟩, known, supported, chosen, complete, environment, files⟩
    simp only [made, known, supported, chosen, if_pos complete]
    rw [← files, ← environment]

end AuditRequest

end StyleAudit
