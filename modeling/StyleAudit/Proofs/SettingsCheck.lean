import StyleAudit.Config
import Mathlib.Tactic.ByContra

/-!
# The check of the settings

The settings are checked once, when a configuration is made, and read anew each time they are needed.
`Environment.readBoolean_cases` says in terms of the values alone how a yes-or-no setting is read; the
check and the later reads both rest on it, so that what passed the check is read without a fault.
-/

namespace StyleAudit

open Text

theorem Locale.ofCode?_eq_none_iff {code : String} : ofCode? code = none ↔ code ∉ codes := by
  simp [ofCode?, codes]

def booleanWords : List (String × Bool) :=
  [("1", true), ("true", true), ("yes", true), ("on", true),
    ("0", false), ("false", false), ("no", false), ("off", false)]

theorem truthOf?_eq_some_iff {word : String} {answer : Bool} :
    truthOf? word = some answer ↔ (word, answer) ∈ booleanWords := by
  have meanings : ∀ entry ∈ booleanWords, truthOf? entry.1 = some entry.2 := by decide
  refine ⟨fun known => ?_, meanings (word, answer)⟩
  unfold truthOf? at known
  split at known
  · rename_i listed
    cases known
    simpa [booleanWords] using listed
  · split at known
    · rename_i listed
      cases known
      simpa [booleanWords] using listed
    · cases known

namespace Settings

/-! ## Faults and answers -/

variable (value : String → Option String)

def localeCode : String := lowercase (strip ((value localeVariable).getD "en"))

/-- The setting for failing runs is there, and is no word for yes or no. -/
structure IsForeign (raw : String) : Prop where
  given : value failureVariable = some raw
  filled : strip raw ≠ ""
  unknown : ∀ answer, (lowercase (strip raw), answer) ∉ booleanWords

/-- Whether findings make a run fail: the word's meaning or, without a word, whether some service for
unattended jobs has made itself known. -/
inductive Decides : Bool → Prop where
  | worded {raw : String} {answer : Bool} (given : value failureVariable = some raw)
      (filled : strip raw ≠ "") (word : (lowercase (strip raw), answer) ∈ booleanWords) :
      Decides answer
  | unworded {answer : Bool} (blank : ∀ raw, value failureVariable = some raw → strip raw = "")
      (marked : answer = true ↔
        ∃ name ∈ Environment.unattendedMarkers, ∃ mark, value name = some mark ∧ mark ≠ "") :
      Decides answer

theorem Decides.unique {answer second : Bool} (decides : Decides value answer)
    (again : Decides value second) : answer = second := by
  cases decides with
  | worded given filled word =>
      cases again with
      | worded givenAgain _ wordAgain =>
          cases given.symm.trans givenAgain
          have meant := truthOf?_eq_some_iff.2 word
          rw [truthOf?_eq_some_iff.2 wordAgain] at meant
          exact (Option.some.inj meant).symm
      | unworded blank _ => exact absurd (blank _ given) filled
  | unworded blank marked =>
      cases again with
      | worded given filled _ => exact absurd (blank _ given) filled
      | unworded _ markedAgain => exact Bool.eq_iff_iff.2 (marked.trans markedAgain.symm)

end Settings

open Settings

/-! ## The check and the reads after it -/

namespace Environment

variable (env : Environment)

theorem locale_eq : env.locale = localeCode env.get? := rfl

theorem isUnattended_iff :
    env.isUnattended = true ↔
      ∃ name ∈ unattendedMarkers, ∃ mark, env.get? name = some mark ∧ mark ≠ "" := by
  rw [isUnattended, List.any_eq_true]
  refine exists_congr fun name => and_congr_right fun _ => ?_
  cases env.get? name <;> simp

theorem readBoolean_cases :
    (readBoolean (env.get? failureVariable) failureVariable = .ok none ∧
      ∀ raw, env.get? failureVariable = some raw → strip raw = "") ∨
    (∃ raw answer, readBoolean (env.get? failureVariable) failureVariable = .ok (some answer) ∧
      env.get? failureVariable = some raw ∧ strip raw ≠ "" ∧
      (lowercase (strip raw), answer) ∈ booleanWords) ∨
    ∃ raw, readBoolean (env.get? failureVariable) failureVariable =
        .error (.notBoolean failureVariable raw) ∧
      IsForeign env.get? raw := by
  cases given : env.get? failureVariable with
  | none => exact .inl ⟨rfl, nofun⟩
  | some raw =>
      by_cases filled : strip raw = ""
      · refine .inl ⟨by simp [readBoolean, filled], fun text same => ?_⟩
        cases same
        exact filled
      · refine .inr ?_
        cases truth : truthOf? (normalized raw) with
        | some answer =>
            exact .inl ⟨raw, answer, by simp [readBoolean, filled, truth], rfl, filled,
              truthOf?_eq_some_iff.1 truth⟩
        | none =>
            refine .inr ⟨raw, by simp [readBoolean, filled, truth], given, filled, ?_⟩
            intro answer word
            have meant : truthOf? (normalized raw) = some answer := truthOf?_eq_some_iff.2 word
            rw [truth] at meant
            cases meant

variable {env}

theorem validate_of_unsupported (unsupported : localeCode env.get? ∉ Locale.codes) :
    env.validate = .error (.unsupportedLocale (localeCode env.get?)) := by
  have missing : Locale.ofCode? env.locale = none := Locale.ofCode?_eq_none_iff.2 unsupported
  rw [← locale_eq]
  simp [validate, missing]

theorem validate_of_supported (supported : localeCode env.get? ∈ Locale.codes) :
    env.validate =
      (readBoolean (env.get? failureVariable) failureVariable).map fun _ => () := by
  have found : Locale.ofCode? env.locale ≠ none := fun missing =>
    Locale.ofCode?_eq_none_iff.1 missing supported
  rw [validate, if_neg (by simpa using found)]
  cases readBoolean (env.get? failureVariable) failureVariable <;> rfl

theorem validate_of_foreign (supported : localeCode env.get? ∈ Locale.codes) {raw : String}
    (foreign : IsForeign env.get? raw) :
    env.validate = .error (.notBoolean failureVariable raw) := by
  rw [validate_of_supported supported]
  rcases env.readBoolean_cases with ⟨_, blank⟩ | ⟨text, answer, _, given, _, word⟩ |
    ⟨text, read, again⟩
  · exact absurd (blank raw foreign.given) foreign.filled
  · cases given.symm.trans foreign.given
    exact absurd word (foreign.unknown answer)
  · cases again.given.symm.trans foreign.given
    rw [read]
    rfl

theorem validate_of_known (supported : localeCode env.get? ∈ Locale.codes)
    (known : ∀ raw, ¬ IsForeign env.get? raw) : env.validate = .ok () := by
  rw [validate_of_supported supported]
  rcases env.readBoolean_cases with ⟨read, _⟩ | ⟨_, _, read, _⟩ | ⟨raw, _, foreign⟩
  · rw [read]
    rfl
  · rw [read]
    rfl
  · exact absurd foreign (known raw)

theorem validate_eq_ok_iff :
    env.validate = .ok () ↔
      localeCode env.get? ∈ Locale.codes ∧ ∀ raw, ¬ IsForeign env.get? raw := by
  refine ⟨fun valid => ?_, fun ⟨supported, known⟩ => validate_of_known supported known⟩
  have supported : localeCode env.get? ∈ Locale.codes := by
    by_contra unsupported
    rw [validate_of_unsupported unsupported] at valid
    cases valid
  refine ⟨supported, fun raw foreign => ?_⟩
  rw [validate_of_foreign supported foreign] at valid
  cases valid

theorem exists_decided (known : ∀ raw, ¬ IsForeign env.get? raw) :
    ∃ answer, env.failsOnFindings = .ok answer ∧ Decides env.get? answer := by
  unfold failsOnFindings
  rcases env.readBoolean_cases with ⟨read, blank⟩ | ⟨raw, answer, read, given, filled, word⟩ |
    ⟨raw, _, foreign⟩
  · rw [read]
    exact ⟨_, rfl, .unworded blank env.isUnattended_iff⟩
  · rw [read]
    exact ⟨_, rfl, .worded given filled word⟩
  · exact absurd foreign (known raw)

theorem exists_message (supported : localeCode env.get? ∈ Locale.codes)
    (style : String) : ∃ message, unusedStyleMessage style env.locale = .ok message := by
  unfold unusedStyleMessage
  rw [locale_eq]
  cases found : Locale.ofCode? (localeCode env.get?) with
  | some locale => exact ⟨_, rfl⟩
  | none => exact absurd supported (Locale.ofCode?_eq_none_iff.1 found)

end Environment

end StyleAudit
