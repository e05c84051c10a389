import StyleAudit.Proofs.Configurations
import StyleAudit.Proofs.Texts

/-!
# Settings that pass the check

`Settings.Respelled` relates values that differ in blanks and letter case, which no reader of a setting
can tell. The main statement says when making a configuration fails, and that settings which passed are
read without a fault afterwards, alike in all their spellings.
-/

namespace StyleAudit

open Text

namespace Settings

variable (value : String → Option String)

/-! ## Spellings of a setting -/

/-- The text is the given one with blanks around it. -/
def Pads (chars : List Char) (text : String) : Prop :=
  ∃ before after : List Char, (∀ c ∈ before, isBlank c = true) ∧ (∀ c ∈ after, isBlank c = true) ∧
    text.toList = before ++ chars ++ after

/-- The texts differ only in the blanks around them and in the case of letters of ASCII. -/
def SameText (text other : String) : Prop :=
  ∃ inner innerOther : List Char, Pads inner text ∧ Pads innerOther other ∧
    inner.map Char.toLower = innerOther.map Char.toLower

/-- The two settings that are checked are spelled in another way, and nothing else differs. -/
structure Respelled (other : String → Option String) : Prop where
  locale : Option.Rel SameText (value localeVariable) (other localeVariable)
  failure : Option.Rel SameText (value failureVariable) (other failureVariable)
  elsewhere : ∀ name, name ≠ localeVariable → name ≠ failureVariable → value name = other name

theorem core_of_pads {chars : List Char} {text : String} (pads : Pads chars text) :
    core text.toList = core chars := by
  obtain ⟨before, after, blankBefore, blankAfter, whole⟩ := pads
  rw [whole, core_padded blankBefore blankAfter]

theorem SameText.core_eq {text other : String} (same : SameText text other) :
    (core text.toList).map Char.toLower = (core other.toList).map Char.toLower := by
  obtain ⟨inner, innerOther, pads, padsOther, recased⟩ := same
  rw [core_of_pads pads, core_of_pads padsOther, ← core_map_toLower, recased, core_map_toLower]

theorem SameText.lowercase_eq {text other : String} (same : SameText text other) :
    lowercase (strip text) = lowercase (strip other) := by
  have lowered : ∀ text : String, lowercase (strip text) =
      String.ofList (lowerFrom [] ((core text.toList).map Char.toLower)) := by
    intro text
    rw [lowercase, toList_strip]
    exact congrArg String.ofList (lowerFrom_map_toLower [] _).symm
  rw [lowered, lowered, same.core_eq]

theorem SameText.blank_iff {text other : String} (same : SameText text other) :
    strip text = "" ↔ strip other = "" := by
  rw [strip_eq_empty_iff, strip_eq_empty_iff, ← List.map_eq_nil_iff, same.core_eq,
    List.map_eq_nil_iff]

theorem SameText.option_cases {text other : Option String} (alike : Option.Rel SameText text other) :
    (text = none ∧ other = none) ∨
    ∃ raw rawOther, text = some raw ∧ other = some rawOther ∧ SameText raw rawOther := by
  cases alike with
  | some same => exact .inr ⟨_, _, rfl, rfl, same⟩
  | none => exact .inl ⟨rfl, rfl⟩

variable {value} {other : String → Option String}

theorem Respelled.localeCode_eq (respelled : Respelled value other) :
    localeCode value = localeCode other := by
  unfold localeCode
  rcases SameText.option_cases respelled.locale with ⟨absent, absentOther⟩ |
    ⟨raw, rawOther, given, givenOther, same⟩
  · rw [absent, absentOther]
  · rw [given, givenOther]
    exact same.lowercase_eq

theorem Respelled.exists_isForeign (respelled : Respelled value other) {rawOther : String}
    (foreign : IsForeign other rawOther) : ∃ raw, IsForeign value raw := by
  obtain ⟨given, filled, unknown⟩ := foreign
  rcases SameText.option_cases respelled.failure with ⟨-, absent⟩ |
    ⟨raw, text, here, there, same⟩
  · rw [absent] at given
    cases given
  · cases there.symm.trans given
    refine ⟨raw, here, fun blank => filled (same.blank_iff.1 blank), ?_⟩
    rwa [same.lowercase_eq]

theorem Respelled.decides (respelled : Respelled value other) {answer : Bool}
    (decides : Decides value answer) : Decides other answer := by
  cases decides with
  | @worded raw _ given filled word =>
      rcases SameText.option_cases respelled.failure with ⟨absent, -⟩ |
        ⟨text, rawOther, here, there, same⟩
      · rw [absent] at given
        cases given
      · cases here.symm.trans given
        refine .worded there (fun blank => filled (same.blank_iff.2 blank)) ?_
        rwa [← same.lowercase_eq]
  | unworded blank marked =>
      have kept : ∀ name ∈ Environment.unattendedMarkers, value name = other name := by
        have apart : ∀ name ∈ Environment.unattendedMarkers,
            name ≠ localeVariable ∧ name ≠ failureVariable := by decide
        intro name member
        exact respelled.elsewhere name (apart name member).1 (apart name member).2
      refine .unworded ?_ ?_
      · intro rawOther given
        rcases SameText.option_cases respelled.failure with ⟨-, absent⟩ |
          ⟨raw, text, here, there, same⟩
        · rw [absent] at given
          cases given
        · cases there.symm.trans given
          exact same.blank_iff.1 (blank raw here)
      · rw [marked]
        refine exists_congr fun name => and_congr_right fun member => ?_
        rw [kept name member]

end Settings

open Settings

namespace Environment

variable {env : Environment}

theorem reads_of_respelled {other : Environment} (valid : env.validate = .ok ())
    (respelled : Respelled env.get? other.get?) :
    other.validate = .ok () ∧ other.locale = env.locale ∧
      other.failsOnFindings = env.failsOnFindings := by
  obtain ⟨supported, known⟩ := validate_eq_ok_iff.1 valid
  have knownOther : ∀ raw, ¬ IsForeign other.get? raw := by
    intro rawOther foreign
    obtain ⟨raw, foreignHere⟩ := respelled.exists_isForeign foreign
    exact known raw foreignHere
  obtain ⟨answer, read, decides⟩ := exists_decided known
  obtain ⟨answerOther, readOther, decidesOther⟩ := exists_decided knownOther
  refine ⟨validate_eq_ok_iff.2 ⟨respelled.localeCode_eq ▸ supported, knownOther⟩,
    respelled.localeCode_eq.symm, ?_⟩
  rw [read, readOther, decidesOther.unique _ (respelled.decides decides)]

end Environment

open Environment

namespace Process

variable {load : Loader} {p : Process} {envFile : Option Path}

/-- Once the file of variables has been loaded, making a configuration and checking the settings come to
the same. -/
theorem checked_perform (loads : (load (p.file? envFile) p.store.environment).2 = .ok ()) :
    ∃ next result, p.perform load (.construct envFile) = (next, some result) ∧
      next.store.environment = p.store.loaded load (p.file? envFile) ∧
      ((next.store.environment.validate = .ok () ∧ ∃ config, result = .ok config) ∨
        ∃ invalid, next.store.environment.validate = .error invalid ∧
          result = .error (.setting invalid)) := by
  refine ⟨_, _, p.perform_construct load envFile, p.store.environment_construct load _, ?_⟩
  dsimp only
  rw [ConfigStore.environment_construct]
  rcases p.store.construct_cases load (p.file? envFile) with ⟨failure, fails, -⟩ |
    ⟨invalid, -, checked, made⟩ | ⟨-, checked, made⟩
  · cases loads.symm.trans fails
  · exact .inr ⟨invalid, checked, by rw [made]⟩
  · exact .inl ⟨checked, _, by rw [made]⟩

theorem perform_of_loading {failure : LoadFailure}
    (fails : (load (p.file? envFile) p.store.environment).2 = .error failure) :
    ∃ next, p.perform load (.construct envFile) = (next, some (.error (.loading failure))) := by
  rw [perform_construct]
  dsimp only
  rw [(p.store.loading_construct_iff load _).2 fails]
  exact ⟨_, rfl⟩

end Process

/-- Making a configuration from a file that can be loaded fails exactly if a later read would find the
settings at fault. Otherwise every read has a result as long as the values stay, the same for all
spellings of the settings. -/
theorem checked_settings_stay_readable (load : Loader) (offers : Offers)
    (assumed : load.SetsUnset offers) (p : Process) (envFile : Option Path) :
    (∀ failure, (load (p.file? envFile) p.store.environment).2 = .error failure →
      ∃ next, p.perform load (.construct envFile) = (next, some (.error (.loading failure)))) ∧
    ((load (p.file? envFile) p.store.environment).2 = .ok () →
      ∃ next result, p.perform load (.construct envFile) = (next, some result) ∧
      (∀ name, next.value? name = (p.value? name).or (p.offered? offers envFile name)) ∧
      ((∃ fault, result = .error fault) ↔
        localeCode next.value? ∉ Locale.codes ∨ ∃ raw, IsForeign next.value? raw) ∧
      (localeCode next.value? ∉ Locale.codes →
        result = .error (.setting (.unsupportedLocale (localeCode next.value?)))) ∧
      (localeCode next.value? ∈ Locale.codes → ∀ raw, IsForeign next.value? raw →
        result = .error (.setting (.notBoolean failureVariable raw))) ∧
      (∀ config, result = .ok config → ∀ env : Environment, env.get? = next.value? →
        (∀ style, ∃ message, unusedStyleMessage style env.locale = .ok message) ∧
        (∃ answer, env.failsOnFindings = .ok answer ∧ Decides next.value? answer) ∧
        ∀ other : Environment, Respelled next.value? other.get? →
          other.validate = .ok () ∧ other.locale = env.locale ∧
            other.failsOnFindings = env.failsOnFindings)) := by
  refine ⟨fun failure fails => Process.perform_of_loading fails, fun loads => ?_⟩
  obtain ⟨next, result, performed, loaded, outcome⟩ := Process.checked_perform loads
  have values : ∀ name, next.value? name = (p.value? name).or (p.offered? offers envFile name) := by
    intro name
    rw [Process.value?, loaded]
    exact assumed.complete loads name
  refine ⟨next, result, performed, values, ?_⟩
  rcases outcome with ⟨valid, config, rfl⟩ | ⟨invalid, refused, rfl⟩
  · obtain ⟨supported, known⟩ := validate_eq_ok_iff.1 valid
    refine ⟨⟨?_, ?_⟩, fun unsupported => absurd supported unsupported,
      fun _ raw foreign => absurd foreign (known raw), ?_⟩
    · rintro ⟨fault, refused⟩
      cases refused
    · rintro (unsupported | ⟨raw, foreign⟩)
      · exact absurd supported unsupported
      · exact absurd foreign (known raw)
    · intro _ _ env same
      have validToo : env.validate = .ok () := by
        rw [validate_eq_ok_iff, same]
        exact validate_eq_ok_iff.1 valid
      refine ⟨exists_message (same ▸ supported), ?_, fun other respelled => ?_⟩
      · rw [← same]
        exact exists_decided (same ▸ known)
      · exact reads_of_respelled validToo (same ▸ respelled)
  · have faulty : localeCode next.value? ∉ Locale.codes ∨ ∃ raw, IsForeign next.value? raw := by
      by_contra sound
      obtain ⟨supported, known⟩ := not_or.1 sound
      cases refused.symm.trans (validate_of_known (not_not.1 supported) (not_exists.1 known))
    refine ⟨⟨fun _ => faulty, fun _ => ⟨_, rfl⟩⟩, fun unsupported => ?_,
      fun supported raw foreign => ?_, fun config made => ?_⟩
    · cases refused.symm.trans (validate_of_unsupported unsupported)
      rfl
    · cases refused.symm.trans (validate_of_foreign supported foreign)
      rfl
    · cases made

namespace Settings.Sample

def loud : Environment := ⟨[(failureVariable, "\tYES ")]⟩

def quiet : Environment := ⟨[(failureVariable, "yes"), (localeVariable, "ja\n")]⟩

def home : FileSystem :=
  ⟨[(["home", ".env"], ⟨Utf8.encode
    "STYLESWEEP_LOCALE=' JA'\nSTYLESWEEP_FAIL_ON_FINDINGS=maybe\n", true⟩)], [], ["home"]⟩

theorem offered?_home (env : Environment) (name : String) :
    (Process.start env home).offered? EnvFile.offered none name =
      if localeVariable = name then some " JA"
      else if failureVariable = name then some "maybe" else none := by
  have text : (home.fileAt? (.ofString envFileName)).bind (fun file => EnvFile.text? file.bytes) =
      some "STYLESWEEP_LOCALE=' JA'\nSTYLESWEEP_FAIL_ON_FINDINGS=maybe\n" := by decide +kernel
  have bound : EnvFile.bindings "STYLESWEEP_LOCALE=' JA'\nSTYLESWEEP_FAIL_ON_FINDINGS=maybe\n" =
      [⟨localeVariable, some " JA"⟩, ⟨failureVariable, some "maybe"⟩] := by decide +kernel
  -- No value refers to a variable, so the file offers the same whatever is set.
  have resolved : EnvFile.resolve env
      [⟨localeVariable, some " JA"⟩, ⟨failureVariable, some "maybe"⟩] =
      ⟨[(localeVariable, some " JA"), (failureVariable, some "maybe")]⟩ := by rfl
  have given : (Process.start env home).file? none = home.fileAt? (.ofString envFileName) := rfl
  have held : (Process.start env home).store.environment = env := rfl
  rw [Process.offered?, EnvFile.offered, given, held, ← Option.bind_assoc, text, Option.bind_some, bound,
    resolved, EnvFile.listed_cons, EnvFile.listed_cons]
  rfl

theorem respelled_quiet {value : String → Option String}
    (values : ∀ name, value name = (loud.get? name).or
      (if localeVariable = name then some " JA"
        else if failureVariable = name then some "maybe" else none)) :
    Respelled value quiet.get? where
  locale := by
    rw [values]
    refine .some ⟨['J', 'A'], ['j', 'a'], ⟨[' '], [], ?_, by simp, by decide +kernel⟩,
      ⟨[], ['\n'], by simp, ?_, by decide +kernel⟩, by decide⟩
    · rw [List.forall_mem_singleton]
      rfl
    · rw [List.forall_mem_singleton]
      rfl
  failure := by
    rw [values]
    refine .some ⟨['Y', 'E', 'S'], ['y', 'e', 's'], ⟨['\t'], [' '], ?_, ?_, by decide +kernel⟩,
      ⟨[], [], by simp, by simp, by decide +kernel⟩, by decide⟩
    · rw [List.forall_mem_singleton]
      rfl
    · rw [List.forall_mem_singleton]
      rfl
  elsewhere name apart apartToo := by
    rw [values, if_neg apart.symm, if_neg apartToo.symm, Option.or_none]
    simp [Registry.get?, loud, quiet, apart.symm, apartToo.symm]

end Settings.Sample

open Settings.Sample

theorem checked_settings_stay_readable_sample :
    EnvFile.load.SetsUnset EnvFile.offered ∧
    (∃ next config, (Process.start loud home).perform EnvFile.load (.construct none) =
        (next, some (.ok config)) ∧
      (∀ style, ∃ message, unusedStyleMessage style next.store.environment.locale = .ok message) ∧
      next.store.environment.failsOnFindings = .ok true ∧ Respelled next.value? quiet.get? ∧
      quiet.validate = .ok () ∧ quiet.locale = next.store.environment.locale ∧
      quiet.failsOnFindings = .ok true) ∧
    (∃ next, (Process.start .empty home).perform EnvFile.load (.construct none) =
      (next, some (.error (.setting (.notBoolean failureVariable "maybe"))))) ∧
    ∃ next, (Process.start ⟨[(localeVariable, "")]⟩ home).perform EnvFile.load (.construct none) =
      (next, some (.error (.setting (.unsupportedLocale "")))) := by
  refine ⟨EnvFile.setsUnset, ?_, ?_, ?_⟩
  · obtain ⟨next, result, performed, values, refused, -, -, reads⟩ :=
      (checked_settings_stay_readable EnvFile.load EnvFile.offered EnvFile.setsUnset
        (.start loud home) none).2 (by decide +kernel)
    simp only [offered?_home] at values
    have code : localeCode next.value? ∈ Locale.codes := by
      rw [localeCode, values]
      decide +kernel
    have failure : next.value? failureVariable = some "\tYES " := values _
    have word : Decides next.value? true :=
      .worded failure (by decide +kernel) (by decide +kernel)
    have known : ∀ raw, ¬ IsForeign next.value? raw := by
      intro raw foreign
      cases failure.symm.trans foreign.given
      exact foreign.unknown true (by decide +kernel)
    cases result with
    | error fault =>
        exact absurd (refused.1 ⟨fault, rfl⟩) (not_or.2 ⟨not_not_intro code, not_exists.2 known⟩)
    | ok config =>
        obtain ⟨messages, ⟨answer, read, decides⟩, alike⟩ :=
          reads config rfl next.store.environment rfl
        cases decides.unique _ word
        have same := respelled_quiet values
        exact ⟨next, config, performed, messages, read, same, read ▸ alike quiet same⟩
  · obtain ⟨next, result, performed, values, -, -, foreign, -⟩ :=
      (checked_settings_stay_readable EnvFile.load EnvFile.offered EnvFile.setsUnset
        (.start .empty home) none).2 (by decide +kernel)
    simp only [offered?_home] at values
    have code : localeCode next.value? ∈ Locale.codes := by
      rw [localeCode, values]
      decide +kernel
    have failure : next.value? failureVariable = some "maybe" := values _
    cases foreign code "maybe" ⟨failure, by decide +kernel, by decide +kernel⟩
    exact ⟨next, performed⟩
  · obtain ⟨next, result, performed, values, -, unsupported, -, -⟩ :=
      (checked_settings_stay_readable EnvFile.load EnvFile.offered EnvFile.setsUnset
        (.start ⟨[(localeVariable, "")]⟩ home) none).2 (by decide +kernel)
    simp only [offered?_home] at values
    have code : localeCode next.value? = "" := by
      rw [localeCode, values]
      decide +kernel
    rw [code] at unsupported
    cases unsupported (by decide)
    exact ⟨next, performed⟩

end StyleAudit
