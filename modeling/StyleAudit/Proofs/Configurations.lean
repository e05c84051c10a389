import StyleAudit.Proofs.EnvFiles
import StyleAudit.Proofs.Plans

/-!
# Variables and configurations over whole runs

Variables are set and unset, files written, configurations made, asked for and dropped, in any order.
Files of variables are loaded by any loader that only sets what is not set (`Loader.SetsUnset`).
`Process.value?_after` and `Process.cached_after` carry what one action keeps through a sequence of
actions; `Process.Dated` is the invariant by which a configuration that is made is told apart from all
that were handed out before.
-/

namespace StyleAudit

open Text

theorem Registry.get?_erase_of_ne {α : Type} (r : Registry α) {key other : String}
    (apart : key ≠ other) : (r.erase key).get? other = r.get? other := by
  unfold get? erase
  rw [List.find?_filter]
  congr 2
  funext entry
  by_cases found : entry.1 = other
  · have kept : entry.1 ≠ key := fun equal => apart (equal.symm.trans found)
    simp [found, found ▸ kept]
  · simp [found]

/-! ## Making and asking for a configuration -/

namespace ConfigStore

variable (store : ConfigStore) (load : Loader) (file : Option FileData)

@[simp] theorem environment_construct :
    (store.construct load file).1.environment = store.loaded load file := by
  rcases store.construct_cases load file with ⟨failure, -, made⟩ | ⟨invalid, -, -, made⟩ |
    ⟨-, -, made⟩ <;> rw [made]

@[simp] theorem cached_construct : (store.construct load file).1.cached = store.cached := by
  rcases store.construct_cases load file with ⟨failure, -, made⟩ | ⟨invalid, -, -, made⟩ |
    ⟨-, -, made⟩ <;> rw [made]

theorem loading_construct_iff {failure : LoadFailure} :
    (store.construct load file).2 = .error (.loading failure) ↔
      (load file store.environment).2 = .error failure := by
  rcases store.construct_cases load file with ⟨other, fails, made⟩ | ⟨invalid, loads, -, made⟩ |
    ⟨loads, -, made⟩
  · simp [made, fails]
  · simp [made, loads]
  · simp [made, loads]

theorem checked_construct (loads : (load file store.environment).2 = .ok ()) :
    (store.construct load file).2.map (fun _ => ()) =
      (store.loaded load file).validate.mapError .setting := by
  rcases store.construct_cases load file with ⟨failure, fails, -⟩ | ⟨invalid, -, valid, made⟩ |
    ⟨-, valid, made⟩
  · cases loads.symm.trans fails
  · rw [made, valid]
    rfl
  · rw [made, valid]
    rfl

theorem made_construct_cases :
    (∃ fault, (store.construct load file).1.made = store.made ∧
      (store.construct load file).2 = .error fault) ∨
    ((store.construct load file).1.made = store.made + 1 ∧
      (store.construct load file).2 = .ok ⟨store.made⟩) := by
  rcases store.construct_cases load file with ⟨failure, -, made⟩ | ⟨invalid, -, -, made⟩ |
    ⟨-, -, made⟩
  · exact .inl ⟨_, by rw [made], by rw [made]⟩
  · exact .inl ⟨_, by rw [made], by rw [made]⟩
  · exact .inr ⟨by rw [made], by rw [made]⟩

theorem serial_construct {config : Config} (made : (store.construct load file).2 = .ok config) :
    config.serial = store.made := by
  rcases store.made_construct_cases load file with ⟨fault, -, failed⟩ | ⟨-, given⟩
  · cases failed.symm.trans made
  · cases given.symm.trans made
    rfl

variable {store}

theorem get_of_cached {config : Config} (held : store.cached = some config) :
    store.get load file = (store, .ok config) := by
  simp only [get, held]

theorem get_of_empty (empty : store.cached = none) :
    store.get load file =
      ({ (store.construct load file).1 with cached := (store.construct load file).2.toOption },
        (store.construct load file).2) := by
  -- A failed attempt leaves the cache as it was, and so empty.
  have kept := store.cached_construct load file
  simp only [get, empty]
  cases made : store.construct load file with
  | mk next result =>
      cases result with
      | ok config => rfl
      | error fault =>
          rw [made, empty] at kept
          cases next
          cases kept
          rfl

end ConfigStore

/-! ## Processes -/

structure Process where
  store : ConfigStore
  files : FileSystem

inductive Action where
  | set (name value : String)
  | unset (name : String)
  | write (path : Path) (bytes : List UInt8)
  | reset
  | construct (envFile : Option Path)
  | get

def Action.assigned? : Action → Option String
  | set name _ => some name
  | unset name => some name
  | _ => none

namespace Process

def start (env : Environment) (files : FileSystem) : Process := ⟨.ofEnvironment env, files⟩

def value? (p : Process) (name : String) : Option String := p.store.environment.get? name

/-- What is found at the given path, or at the place of the file of variables. -/
def file? (p : Process) (envFile : Option Path) : Option FileData :=
  p.files.fileAt? (envFile.getD (.ofString envFileName))

def perform (p : Process) (load : Loader) :
    Action → Process × Option (Except ConfigFault Config)
  | .set name value => ({ p with store := p.store.setVariable name value }, none)
  | .unset name => ({ p with store := p.store.unsetVariable name }, none)
  | .write path bytes => ({ p with files := p.files.write (path.resolve p.files.cwd) bytes }, none)
  | .reset => ({ p with store := p.store.reset }, none)
  | .construct envFile =>
      let made := p.store.construct load (p.file? envFile)
      ({ p with store := made.1 }, some made.2)
  | .get =>
      let found := p.store.get load (p.file? none)
      ({ p with store := found.1 }, some found.2)

def after (p : Process) (load : Loader) (actions : List Action) : Process :=
  actions.foldl (fun state action => (state.perform load action).1) p

def given? (p : Process) (load : Loader) (action : Action) : Option Config :=
  (p.perform load action).2.bind Except.toOption

/-- The configurations that a sequence of actions hands out. -/
def given (p : Process) (load : Loader) : List Action → List Config
  | [] => []
  | action :: rest => (p.given? load action).toList ++ (p.perform load action).1.given load rest

def offered? (p : Process) (offers : Offers) (envFile : Option Path) (name : String) :
    Option String :=
  offers (p.file? envFile) p.store.environment name

/-- What making a configuration does, whether or not the settings pass the check; `earlier` are the
configurations that have been handed out before. -/
structure Makes (p : Process) (load : Loader) (offers : Offers) (envFile : Option Path)
    (earlier : List Config) (next : Process) (result : Except ConfigFault Config) : Prop where
  failed : ∀ failure, result = .error (.loading failure) ↔
    (load (p.file? envFile) p.store.environment).2 = .error failure
  values : (∀ failure, result ≠ .error (.loading failure)) →
    ∀ name, next.value? name = (p.value? name).or (p.offered? offers envFile name)
  halfway : ∀ name, next.value? name = p.value? name ∨
    p.value? name = none ∧ next.value? name = p.offered? offers envFile name
  files_eq : next.files = p.files
  checked : (∀ failure, result ≠ .error (.loading failure)) →
    result.map (fun _ => ()) = next.store.environment.validate.mapError .setting
  fresh : ∀ config, result = .ok config → config ∉ earlier

/-! ## One action -/

variable {load : Loader} {offers : Offers} {p : Process} {action : Action}

theorem perform_construct (p : Process) (load : Loader) (envFile : Option Path) :
    p.perform load (.construct envFile) =
      let made := p.store.construct load (p.file? envFile)
      ({ p with store := made.1 }, some made.2) := rfl

theorem perform_get_of_cached {config : Config} (held : p.store.cached = some config) :
    p.perform load .get = (p, some (.ok config)) := by
  simp only [perform, ConfigStore.get_of_cached _ _ held]

theorem perform_get_of_empty (empty : p.store.cached = none) :
    p.perform load .get =
      let made := p.store.construct load (p.file? none)
      ({ p with store := { made.1 with cached := made.2.toOption } }, some made.2) := by
  simp only [perform, ConfigStore.get_of_empty _ _ empty]

theorem get?_loaded (assumed : load.SetsUnset offers) {envFile : Option Path} {name value : String}
    (known : p.value? name = some value) :
    (p.store.loaded load (p.file? envFile)).get? name = some value := by
  rcases assumed.halfway (p.file? envFile) p.store.environment name with kept | ⟨unset, -⟩
  · exact kept.trans known
  · cases known.symm.trans unset

theorem value?_perform (assumed : load.SetsUnset offers) {name value : String}
    (known : p.value? name = some value) (other : action.assigned? ≠ some name) :
    (p.perform load action).1.value? name = some value := by
  cases action with
  | set key _ =>
      have apart : key ≠ name := fun equal => other (congrArg some equal)
      exact (Registry.get?_put ..).trans ((if_neg apart).trans known)
  | unset key =>
      have apart : key ≠ name := fun equal => other (congrArg some equal)
      exact (Registry.get?_erase_of_ne _ apart).trans known
  | write path bytes => exact known
  | reset => exact known
  | construct envFile =>
      simp only [perform_construct, value?, ConfigStore.environment_construct]
      exact get?_loaded assumed known
  | get =>
      cases cached : p.store.cached with
      | some config => rw [perform_get_of_cached cached, known]
      | none =>
          simp only [perform_get_of_empty cached, value?, ConfigStore.environment_construct]
          exact get?_loaded assumed known

theorem cached_perform {config : Config} (held : p.store.cached = some config)
    (kept : action ≠ .reset) : (p.perform load action).1.store.cached = some config := by
  cases action with
  | reset => exact absurd rfl kept
  | construct envFile => simp only [perform_construct, ConfigStore.cached_construct, held]
  | get => rw [perform_get_of_cached held, held]
  | _ => exact held

theorem cached_perform_of_empty (empty : p.store.cached = none) (other : action ≠ .get) :
    (p.perform load action).1.store.cached = none := by
  cases action with
  | reset => rfl
  | construct envFile => simp only [perform_construct, ConfigStore.cached_construct, empty]
  | get => exact absurd rfl other
  | _ => exact empty

/-- An action that makes a configuration hands it out; any other action hands out the one in use or
nothing. No action puts another one into use. -/
theorem perform_cases (p : Process) (action : Action) :
    ((p.perform load action).1.store.made = p.store.made ∧
      (∀ config, p.given? load action = some config → p.store.cached = some config) ∧
      ∀ config, (p.perform load action).1.store.cached = some config → p.store.cached = some config) ∨
    ((p.perform load action).1.store.made = p.store.made + 1 ∧
      p.given? load action = some ⟨p.store.made⟩ ∧
      ∀ config, (p.perform load action).1.store.cached = some config →
        p.store.cached = some config ∨ config = ⟨p.store.made⟩) := by
  cases action with
  | reset => exact .inl ⟨rfl, nofun, nofun⟩
  | construct envFile =>
      unfold given?
      simp only [perform_construct, ConfigStore.cached_construct]
      rcases p.store.made_construct_cases load (p.file? envFile) with ⟨fault, made, failed⟩ |
        ⟨made, given⟩
      · rw [failed]
        exact .inl ⟨made, nofun, fun _ held => held⟩
      · rw [given]
        exact .inr ⟨made, rfl, fun _ held => .inl held⟩
  | get =>
      unfold given?
      cases cached : p.store.cached with
      | some config =>
          rw [perform_get_of_cached cached]
          exact .inl ⟨rfl, fun _ handed => handed, fun _ held => cached ▸ held⟩
      | none =>
          rw [perform_get_of_empty cached]
          rcases p.store.made_construct_cases load (p.file? none) with ⟨fault, made, failed⟩ |
            ⟨made, given⟩
          · dsimp only
            rw [failed]
            exact .inl ⟨made, nofun, nofun⟩
          · dsimp only
            rw [given]
            exact .inr ⟨made, rfl, fun _ held => .inr (Option.some.inj held).symm⟩
  | _ => exact .inl ⟨rfl, nofun, fun _ held => held⟩

/-! ## Sequences of actions -/

/-- What every action of a sequence keeps, the sequence keeps. -/
theorem holds_after (holds : Process → Prop) {allowed : Action → Prop}
    (step : ∀ {p action}, holds p → allowed action → holds (p.perform load action).1)
    (initially : holds p) {actions : List Action} (all : ∀ action ∈ actions, allowed action) :
    holds (p.after load actions) := by
  induction actions generalizing p with
  | nil => exact initially
  | cons action rest ih =>
      exact ih (step initially (all action List.mem_cons_self)) fun later member =>
        all later (List.mem_cons_of_mem _ member)

variable {actions : List Action}

theorem value?_after (assumed : load.SetsUnset offers) {name value : String} (known : p.value? name = some value)
    (others : ∀ action ∈ actions, action.assigned? ≠ some name) :
    (p.after load actions).value? name = some value :=
  holds_after (fun q => q.value? name = some value) (value?_perform assumed) known others

theorem cached_after {config : Config} (held : p.store.cached = some config)
    (kept : ∀ action ∈ actions, action ≠ .reset) : (p.after load actions).store.cached = some config :=
  holds_after (fun q => q.store.cached = some config) cached_perform held kept

theorem cached_after_of_empty (empty : p.store.cached = none)
    (others : ∀ action ∈ actions, action ≠ .get) : (p.after load actions).store.cached = none :=
  holds_after (fun q => q.store.cached = none) cached_perform_of_empty empty others

/-- The configurations handed out so far, the one in use among them, have serial numbers below the
number of those made. -/
structure Dated (p : Process) (earlier : List Config) : Prop where
  below : ∀ config ∈ earlier, config.serial < p.store.made
  cached : ∀ config, p.store.cached = some config → config ∈ earlier

namespace Dated

variable {earlier : List Config}

theorem of_start (env : Environment) (files : FileSystem) : (start env files).Dated [] :=
  ⟨by simp, by simp [start, ConfigStore.ofEnvironment]⟩

theorem not_mem (dated : p.Dated earlier) {config : Config}
    (made : config.serial = p.store.made) : config ∉ earlier :=
  fun member => Nat.lt_irrefl _ (made ▸ dated.below config member)

theorem perform (dated : p.Dated earlier) (action : Action) :
    (p.perform load action).1.Dated (earlier ++ (p.given? load action).toList) := by
  rcases perform_cases p action with ⟨made, handed, cached⟩ | ⟨made, handed, cached⟩
  · refine ⟨fun config member => ?_, fun config held => ?_⟩
    · rw [made]
      rcases List.mem_append.1 member with old | new
      · exact dated.below config old
      · exact dated.below config (dated.cached config (handed config (Option.mem_toList.1 new)))
    · exact List.mem_append_left _ (dated.cached config (cached config held))
  · rw [handed]
    refine ⟨fun config member => ?_, fun config held => ?_⟩
    · rw [made]
      rcases List.mem_append.1 member with old | new
      · exact Nat.lt_succ_of_lt (dated.below config old)
      · rw [List.mem_singleton.1 new]
        exact Nat.lt_succ_self _
    · rcases cached config held with old | rfl
      · exact List.mem_append_left _ (dated.cached config old)
      · exact List.mem_append_right _ (List.mem_singleton_self _)

theorem after (dated : p.Dated earlier) (actions : List Action) :
    (p.after load actions).Dated (earlier ++ p.given load actions) := by
  induction actions generalizing p earlier with
  | nil =>
      rw [given, List.append_nil]
      exact dated
  | cons action rest ih =>
      rw [given, ← List.append_assoc]
      exact ih (dated.perform action)

end Dated

theorem dated_after_start (load : Loader) (env : Environment) (files : FileSystem)
    (actions : List Action) :
    ((start env files).after load actions).Dated ((start env files).given load actions) :=
  (Dated.of_start env files).after actions

/-! ## Every run -/

theorem makes_construct (assumed : load.SetsUnset offers) {earlier : List Config}
    (dated : p.Dated earlier) {envFile : Option Path} {next : Process}
    (loaded : next.store.environment = p.store.loaded load (p.file? envFile))
    (files : next.files = p.files) :
    p.Makes load offers envFile earlier next (p.store.construct load (p.file? envFile)).2 := by
  have loads : (∀ failure, (p.store.construct load (p.file? envFile)).2 ≠ .error (.loading failure)) →
      (load (p.file? envFile) p.store.environment).2 = .ok () := by
    intro sound
    cases outcome : (load (p.file? envFile) p.store.environment).2 with
    | ok _ => rfl
    | error failure => exact absurd ((p.store.loading_construct_iff _ _).2 outcome) (sound failure)
  constructor
  · exact fun failure => p.store.loading_construct_iff load _
  · intro sound name
    rw [value?, loaded]
    exact assumed.complete (loads sound) name
  · intro name
    rw [value?, loaded]
    exact assumed.halfway _ _ name
  · exact files
  · intro sound
    rw [p.store.checked_construct load _ (loads sound), loaded]
  · exact fun _ made => dated.not_mem (p.store.serial_construct load _ made)

theorem exists_makes_of_construct (assumed : load.SetsUnset offers) {earlier : List Config}
    (dated : p.Dated earlier) (envFile : Option Path) :
    ∃ next result, p.perform load (.construct envFile) = (next, some result) ∧
      p.Makes load offers envFile earlier next result ∧ next.store.cached = p.store.cached := by
  refine ⟨_, _, p.perform_construct load envFile, makes_construct assumed dated ?_ rfl, ?_⟩
  · simp only [ConfigStore.environment_construct]
  · simp only [ConfigStore.cached_construct]

theorem exists_makes_of_get (assumed : load.SetsUnset offers) {earlier : List Config}
    (dated : p.Dated earlier) (empty : p.store.cached = none) :
    ∃ next result, p.perform load .get = (next, some result) ∧
      p.Makes load offers none earlier next result ∧ next.store.cached = result.toOption := by
  refine ⟨_, _, perform_get_of_empty empty, makes_construct assumed dated ?_ rfl, ?_⟩
  · simp only [ConfigStore.environment_construct]
  · simp only

end Process

open Process

/-- A variable that is set keeps its value until it is set or unset itself, and the configuration in use
stays until it is dropped, whatever the files of variables become. -/
theorem values_and_configuration_stay (load : Loader) (offers : Offers)
    (assumed : load.SetsUnset offers) (env : Environment) (files : FileSystem)
    (actions : List Action) :
    let p := (start env files).after load actions
    let earlier := (start env files).given load actions
    (∀ envFile, ∃ next result, p.perform load (.construct envFile) = (next, some result) ∧
      p.Makes load offers envFile earlier next result ∧ next.store.cached = p.store.cached) ∧
    (∀ config, p.store.cached = some config →
      ∀ later : List Action, (∀ action ∈ later, action ≠ .reset) →
        (p.after load later).perform load .get = (p.after load later, some (.ok config))) ∧
    (p.store.cached = none → ∃ next result, p.perform load .get = (next, some result) ∧
      p.Makes load offers none earlier next result ∧ next.store.cached = result.toOption ∧
      ∀ fault, result = .error fault →
        ∀ later : List Action, (∀ action ∈ later, action ≠ .get) →
          (next.after load later).store.cached = none) ∧
    (∀ name value, p.value? name = some value →
      ∀ later : List Action, (∀ action ∈ later, action.assigned? ≠ some name) →
        (p.after load later).value? name = some value) := by
  intro p earlier
  have dated : p.Dated earlier := dated_after_start load env files actions
  refine ⟨exists_makes_of_construct assumed dated, fun config held later kept => ?_, fun empty => ?_,
    fun name value known later others => value?_after assumed known others⟩
  · exact perform_get_of_cached (cached_after held kept)
  · obtain ⟨next, result, performed, makes, cached⟩ := exists_makes_of_get assumed dated empty
    refine ⟨next, result, performed, makes, cached, ?_⟩
    rintro fault rfl later others
    exact cached_after_of_empty cached others

namespace Sample

def homeWithWrongLocale : FileSystem :=
  ⟨[(["home", ".env"], ⟨Utf8.encode "STYLESWEEP_LOCALE=xx\nCOLOR=blue\n", true⟩)], [], ["home"]⟩

def mended : List Action :=
  [.get, .set localeVariable "ja", .write (.ofString envFileName) (Utf8.encode "COLOR=red\n"), .get]

end Sample

open Sample in
theorem values_and_configuration_stay_sample :
    EnvFile.load.SetsUnset EnvFile.offered ∧
    let first := start .empty homeWithWrongLocale
    let last := first.after EnvFile.load mended
    (∃ next, first.perform EnvFile.load .get = (next, some (.error (.setting (.unsupportedLocale "xx")))) ∧
      next.value? "COLOR" = some "blue" ∧ next.store.cached = none ∧
      ∀ later : List Action, (∀ action ∈ later, action ≠ .get) →
        (next.after EnvFile.load later).store.cached = none) ∧
    (last.store.cached = some ⟨0⟩ ∧
      ∀ later : List Action, (∀ action ∈ later, action ≠ .reset) →
        (last.after EnvFile.load later).perform EnvFile.load .get =
          (last.after EnvFile.load later, some (.ok ⟨0⟩))) ∧
    (last.offered? EnvFile.offered none "COLOR" = some "red" ∧ last.value? "COLOR" = some "blue" ∧
      ∀ later : List Action, (∀ action ∈ later, action.assigned? ≠ some "COLOR") →
        (last.after EnvFile.load later).value? "COLOR" = some "blue") := by
  refine ⟨EnvFile.setsUnset, ?_⟩
  dsimp only
  obtain ⟨-, -, made, -⟩ := values_and_configuration_stay EnvFile.load EnvFile.offered
    EnvFile.setsUnset .empty homeWithWrongLocale []
  obtain ⟨-, stays, -, kept⟩ := values_and_configuration_stay EnvFile.load EnvFile.offered
    EnvFile.setsUnset .empty homeWithWrongLocale mended
  have fails : ((start .empty homeWithWrongLocale).perform EnvFile.load .get).2 =
      some (.error (.setting (.unsupportedLocale "xx"))) := by decide +kernel
  have inUse : ((start .empty homeWithWrongLocale).after EnvFile.load mended).store.cached =
      some ⟨0⟩ := by
    decide +kernel
  have blue : ((start .empty homeWithWrongLocale).after EnvFile.load mended).value? "COLOR" =
      some "blue" := by
    decide +kernel
  refine ⟨?_, ⟨inUse, stays _ inUse⟩, by decide +kernel, blue, kept _ _ blue⟩
  obtain ⟨next, result, performed, makes, cached, again⟩ := made rfl
  rw [show (start .empty homeWithWrongLocale).perform EnvFile.load .get = (next, some result)
    from performed] at fails ⊢
  cases fails
  refine ⟨next, rfl, ?_, cached, again _ rfl⟩
  rw [makes.values nofun]
  decide +kernel

end StyleAudit
