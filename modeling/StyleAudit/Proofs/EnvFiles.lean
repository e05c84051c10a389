import StyleAudit.EnvFile
import StyleAudit.Proofs.Registry

/-!
# Loading files of variables

A loader sets variables that are not set yet, to values that the file offers, and leaves all others
alone (`Loader.SetsUnset`). Configurations are reasoned about for any loader that does this;
`EnvFile.setsUnset` shows that the loader of this library does.
-/

namespace StyleAudit

/-- The values that files of variables have for names. They may refer to the variables that are set. -/
abbrev Offers := Option FileData → Environment → String → Option String

/-- What is relied on when a file of variables is loaded. -/
structure Loader.SetsUnset (load : Loader) (offers : Offers) : Prop where
  complete : ∀ {file env}, (load file env).2 = .ok () →
    ∀ name, (load file env).1.get? name = (env.get? name).or (offers file env name)
  /-- Also a load that fails has set nothing else. -/
  halfway : ∀ file env name, (load file env).1.get? name = env.get? name ∨
    env.get? name = none ∧ (load file env).1.get? name = offers file env name

/-! ## Registries of optional values -/

theorem Registry.get?_cons {α : Type} (key : String) (value : α) (rest : List (String × α))
    (name : String) :
    (Registry.mk ((key, value) :: rest)).get? name =
      if key = name then some value else (Registry.mk rest).get? name := by
  by_cases same : key = name <;> simp [get?, same]

theorem Registry.get?_of_not_mem {α : Type} {entries : List (String × α)} {name : String}
    (absent : name ∉ entries.map (·.1)) : (Registry.mk entries).get? name = none := by
  have missed : entries.find? (fun entry => decide (entry.1 = name)) = none := by
    refine List.find?_eq_none.2 fun entry member found => ?_
    exact absent (List.mem_map.2 ⟨entry, member, of_decide_eq_true found⟩)
  rw [get?, missed, Option.map_none]

namespace EnvFile

theorem nodup_keys_resolve (env : Environment) (found : List Binding) :
    (resolve env found).keys.Nodup := by
  suffices ∀ known : Registry (Option String), known.keys.Nodup →
      (found.foldl (fun known binding =>
        known.put binding.name (binding.value.map fun value =>
          String.ofList ((piecesOf (value.length + 1) value.toList).flatMap
            (Piece.resolve env known)))) known).keys.Nodup from
    this Registry.empty List.nodup_nil
  induction found with
  | nil => exact fun known nodup => nodup
  | cons binding rest ih =>
      intro known nodup
      exact ih _ (Registry.nodup_keys_put nodup _ _)

/-! ## Setting one variable after the other -/

/-- The value for a name in a list of names with and without values. -/
def listed (entries : List (String × Option String)) (name : String) : Option String :=
  ((Registry.mk entries).get? name).join

theorem listed_cons (key : String) (value : Option String) (rest : List (String × Option String))
    (name : String) :
    listed ((key, value) :: rest) name = if key = name then value else listed rest name := by
  rw [listed, Registry.get?_cons]
  split <;> rfl

theorem listed_of_not_mem {entries : List (String × Option String)} {name : String}
    (absent : name ∉ entries.map (·.1)) : listed entries name = none := by
  rw [listed, Registry.get?_of_not_mem absent, Option.join_none]

/-- An entry is passed over, stops everything or sets its variable. -/
theorem setAll_cons_cases (env : Environment) (key : String) (given : Option String)
    (rest : List (String × Option String)) :
    (setAll env ((key, given) :: rest) = setAll env rest ∧
      ∀ text, given = some text → env.get? key ≠ none) ∨
    ∃ text, given = some text ∧ env.get? key = none ∧
      ((∃ failure, setAll env ((key, given) :: rest) = (env, .error failure)) ∨
        setAll env ((key, given) :: rest) = setAll (env.put key text) rest) := by
  cases given with
  | none =>
      refine .inl ⟨rfl, fun text given => ?_⟩
      cases given
  | some text =>
      rw [setAll]
      by_cases held : env.contains key = true
      · refine .inl ⟨if_pos held, fun _ _ unset => ?_⟩
        simp [Registry.contains, unset] at held
      · have unset : env.get? key = none := by simpa [Registry.contains] using held
        refine .inr ⟨text, rfl, unset, ?_⟩
        rw [if_neg held]
        cases objection? key text with
        | some reason => exact .inl ⟨_, rfl⟩
        | none => exact .inr rfl

theorem get?_setAll_of_set {entries : List (String × Option String)} {env : Environment}
    {name value : String} (known : env.get? name = some value) :
    (setAll env entries).1.get? name = some value := by
  induction entries generalizing env with
  | nil => exact known
  | cons entry rest ih =>
      obtain ⟨key, given⟩ := entry
      obtain ⟨passed, -⟩ | ⟨text, -, unset, ⟨failure, stopped⟩ | set⟩ :=
        setAll_cons_cases env key given rest
      · rw [passed]
        exact ih known
      · rw [stopped]
        exact known
      · have apart : key ≠ name := by
          rintro rfl
          cases known.symm.trans unset
        rw [set]
        refine ih ?_
        rw [Registry.get?_put, if_neg apart, known]

/-- A variable that is not set gets the value it is listed with, unless an entry stops everything
before. -/
theorem get?_setAll_of_unset {entries : List (String × Option String)}
    (nodup : (entries.map (·.1)).Nodup) {env : Environment} {name : String}
    (unset : env.get? name = none) :
    ((setAll env entries).2 = .ok () →
      (setAll env entries).1.get? name = listed entries name) ∧
    ((setAll env entries).1.get? name = none ∨
      (setAll env entries).1.get? name = listed entries name) := by
  induction entries generalizing env with
  | nil => exact ⟨fun _ => unset, .inl unset⟩
  | cons entry rest ih =>
      obtain ⟨key, given⟩ := entry
      obtain ⟨absent, nodupRest⟩ := List.nodup_cons.1 nodup
      rw [listed_cons]
      obtain ⟨passed, held⟩ | ⟨text, rfl, -, ⟨failure, stopped⟩ | set⟩ :=
        setAll_cons_cases env key given rest
      · rw [passed]
        have later := ih nodupRest unset
        by_cases same : key = name
        · subst same
          rw [if_pos rfl]
          cases given with
          | none => rwa [listed_of_not_mem absent] at later
          | some text => exact absurd unset (held text rfl)
        · rwa [if_neg same]
      · rw [stopped]
        refine ⟨fun completed => ?_, .inl unset⟩
        cases completed
      · rw [set]
        by_cases same : key = name
        · subst same
          have given : (env.put key text).get? key = some text := by
            rw [Registry.get?_put, if_pos rfl]
          rw [if_pos rfl, get?_setAll_of_set given]
          exact ⟨fun _ => rfl, .inr rfl⟩
        · rw [if_neg same]
          refine ih nodupRest ?_
          rw [Registry.get?_put, if_neg same, unset]

/-! ## The loader -/

def offered : Offers := fun file env name =>
  file.bind fun file => (text? file.bytes).bind fun text =>
    listed (resolve env (bindings text)).entries name

theorem setsUnset : load.SetsUnset offered := by
  suffices ∀ file env name,
      ((load file env).2 = .ok () →
        (load file env).1.get? name = (env.get? name).or (offered file env name)) ∧
      ((load file env).1.get? name = env.get? name ∨
        env.get? name = none ∧ (load file env).1.get? name = offered file env name) from
    ⟨fun loaded name => (this _ _ name).1 loaded, fun file env name => (this file env name).2⟩
  intro file env name
  cases file with
  | none => exact ⟨fun _ => by simp [load, offered], .inl rfl⟩
  | some file =>
      unfold load offered
      dsimp only
      split
      · cases decoded : text? file.bytes with
        | none =>
            refine ⟨fun completed => ?_, .inl rfl⟩
            cases completed
        | some text =>
            simp only [Option.bind_some, decoded]
            cases known : env.get? name with
            | some value =>
                exact ⟨fun _ => get?_setAll_of_set known, .inl (get?_setAll_of_set known)⟩
            | none =>
                have gained := get?_setAll_of_unset (nodup_keys_resolve env (bindings text)) known
                exact ⟨gained.1, gained.2.imp_right fun given => ⟨rfl, given⟩⟩
      · refine ⟨fun completed => ?_, .inl rfl⟩
        cases completed

end EnvFile

end StyleAudit
