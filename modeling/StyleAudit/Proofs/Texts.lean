import StyleAudit.Text.Blank
import StyleAudit.Text.Lowercase
import StyleAudit.Text.Pieces
import Mathlib.Data.List.DropRight

/-!
# Texts cut, stripped and lowered

Pieces are those of `List.splitOn`. Stripping takes off the blanks around a text and nothing else, and
lowering does not tell the capitals of ASCII from their small letters, whatever stands around them.
-/

namespace StyleAudit.Text

/-! ## Pieces -/

theorem pieces_eq_splitOn (separator : Char) (chars : List Char) :
    pieces separator chars = chars.splitOn separator := by
  induction chars with
  | nil => rfl
  | cons c rest ih =>
      rw [pieces, List.splitOn_cons_eq_if_modifyHead, ih]
      by_cases here : c = separator
      · simp [here]
      · cases cut : rest.splitOn separator with
        | nil => exact absurd cut (List.splitOn_ne_nil _ _)
        | cons first others => simp [here]

theorem not_mem_of_mem_pieces {separator : Char} {chars piece : List Char}
    (member : piece ∈ pieces separator chars) : separator ∉ piece := by
  induction chars generalizing piece with
  | nil =>
      rw [List.mem_singleton.1 member]
      exact List.not_mem_nil
  | cons c rest ih =>
      unfold pieces at member
      split at member
      · rcases List.mem_cons.1 member with rfl | later
        · exact List.not_mem_nil
        · exact ih later
      · rename_i other
        split at member
        · rename_i first others cut
          rcases List.mem_cons.1 member with rfl | later
          · have rest := ih (cut ▸ List.mem_cons_self)
            simpa [Ne.symm other] using rest
          · exact ih (cut ▸ List.mem_cons_of_mem _ later)
        · rw [List.mem_singleton.1 member]
          simpa using Ne.symm other

/-! ## Blanks -/

/-- The characters of a text without the blanks around it. -/
def core (chars : List Char) : List Char := stripEnd (stripStart chars)

theorem toList_strip (text : String) : (strip text).toList = core text.toList := by
  simp [strip, core]

theorem strip_eq_empty_iff {text : String} : strip text = "" ↔ core text.toList = [] := by
  rw [← toList_strip, String.toList_eq_nil_iff]

theorem core_subset (chars : List Char) : core chars ⊆ chars := by
  have front : core chars <+: stripStart chars := List.rdropWhile_prefix _ _
  have back : stripStart chars <:+ chars := List.dropWhile_suffix _
  exact List.Subset.trans front.subset back.subset

theorem isBlank_head_core {chars : List Char} {c : Char} (first : (core chars).head? = some c) :
    isBlank c = false := by
  obtain ⟨rest, whole⟩ : core chars <+: stripStart chars := List.rdropWhile_prefix _ _
  have head : (chars.dropWhile isBlank).head? = some c := by
    rw [← stripStart, ← whole, List.head?_append, first, Option.some_or]
  have := List.head?_dropWhile_not isBlank chars
  simpa [head] using this

theorem isBlank_last_core {chars : List Char} {c : Char} (last : (core chars).getLast? = some c) :
    isBlank c = false := by
  rw [core, stripEnd, List.getLast?_reverse] at last
  have := List.head?_dropWhile_not isBlank (stripStart chars).reverse
  simpa [last] using this

/-- Blanks put around a text are taken off again. -/
theorem core_padded {before after : List Char} (blankBefore : ∀ c ∈ before, isBlank c = true)
    (blankAfter : ∀ c ∈ after, isBlank c = true) (chars : List Char) :
    core (before ++ chars ++ after) = core chars := by
  have first : stripStart (before ++ chars ++ after) = stripStart (chars ++ after) := by
    rw [List.append_assoc]
    exact List.dropWhile_append_of_pos blankBefore
  have last : ∀ chars, stripEnd (chars ++ after) = stripEnd chars := by
    intro chars
    rw [stripEnd, List.reverse_append, List.dropWhile_append_of_pos (by simpa using blankAfter)]
    rfl
  rw [core, first, core, stripStart, List.dropWhile_append]
  split
  · rename_i empty
    have nothing : after.dropWhile isBlank = [] := List.dropWhile_eq_nil_iff.2 blankAfter
    rw [nothing, stripStart, List.isEmpty_iff.1 empty]
  · exact last _

/-! ## Letter case -/

/-- A function that gives each capital of ASCII and its small letter the same value gives any
character and its small letter the same value. -/
theorem apply_toLower {α : Type} {f : Char → α}
    (agrees : ∀ i : Fin 26, f (Char.ofNat (65 + i)).toLower = f (Char.ofNat (65 + i))) (c : Char) :
    f c.toLower = f c := by
  by_cases capital : 65 ≤ c.toNat ∧ c.toNat ≤ 90
  · have spelled : Char.ofNat (65 + (c.toNat - 65)) = c := by
      rw [Nat.add_sub_cancel' capital.1, Char.ofNat_toNat]
    have letter := agrees ⟨c.toNat - 65, by omega⟩
    rwa [spelled] at letter
  · have small : c.toLower = c := dif_neg capital
    rw [small]

theorem lowerChar_toLower (c : Char) : lowerChar c.toLower = lowerChar c :=
  apply_toLower (by decide +kernel) c

theorem isBlank_toLower (c : Char) : isBlank c.toLower = isBlank c :=
  apply_toLower (by decide +kernel) c

theorem not_ignorable_of_letter {c : Char}
    (letter : 65 ≤ c.toNat ∧ c.toNat ≤ 90 ∨ 97 ≤ c.toNat ∧ c.toNat ≤ 122) :
    caseIgnorable.contains c = false := by
  have elsewhere : ∀ range ∈ caseIgnorable,
      range.2 < 65 ∨ 90 < range.1 ∧ range.2 < 97 ∨ 122 < range.1 := by decide +kernel
  rw [Ranges.contains, List.any_eq_false]
  intro range member
  have apart := elsewhere range member
  simp only [Bool.and_eq_true, decide_eq_true_eq]
  omega

theorem ignorable_toLower (c : Char) :
    caseIgnorable.contains c.toLower = caseIgnorable.contains c := by
  refine apply_toLower (fun i => ?_) c
  have capital : 65 ≤ (Char.ofNat (65 + i)).toNat ∧ (Char.ofNat (65 + i)).toNat ≤ 90 := by
    revert i
    decide
  have small : 97 ≤ (Char.ofNat (65 + i)).toLower.toNat ∧
      (Char.ofNat (65 + i)).toLower.toNat ≤ 122 := by
    revert i
    decide
  rw [not_ignorable_of_letter (.inr small), not_ignorable_of_letter (.inl capital)]

theorem meetsCased_map_toLower (chars : List Char) :
    meetsCased (chars.map Char.toLower) = meetsCased chars := by
  have ignored : caseIgnorable.contains ∘ Char.toLower = caseIgnorable.contains :=
    funext ignorable_toLower
  have cased : ∀ c, casedLetters.contains (Char.toLower c) = casedLetters.contains c :=
    apply_toLower (by decide +kernel)
  unfold meetsCased
  rw [List.dropWhile_map, ignored]
  cases chars.dropWhile caseIgnorable.contains with
  | nil => rfl
  | cons c _ => exact cased c

theorem lowerFrom_map_toLower (before chars : List Char) :
    lowerFrom (before.map Char.toLower) (chars.map Char.toLower) = lowerFrom before chars := by
  have sigma : ∀ c : Char, (c.toLower = 'Σ') = (c = 'Σ') :=
    apply_toLower (f := (· = 'Σ')) (by decide +kernel)
  have dotted : ∀ c : Char, (c.toLower = 'İ') = (c = 'İ') :=
    apply_toLower (f := (· = 'İ')) (by decide +kernel)
  induction chars generalizing before with
  | nil => rfl
  | cons c rest ih =>
      have later := ih (c :: before)
      rw [List.map_cons] at later
      simp only [List.map_cons, lowerFrom, later, sigma, dotted, lowerChar_toLower,
        meetsCased_map_toLower]

theorem core_map_toLower (chars : List Char) :
    core (chars.map Char.toLower) = (core chars).map Char.toLower := by
  have blank : isBlank ∘ Char.toLower = isBlank := funext isBlank_toLower
  simp only [core, stripStart, stripEnd, List.dropWhile_map, ← List.map_reverse, blank]

end StyleAudit.Text
