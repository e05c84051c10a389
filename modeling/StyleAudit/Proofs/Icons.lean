import StyleAudit.Terminal
import Mathlib.Data.List.Basic

/-!
# Texts on terminals that cannot show icons

The icons of a text are replaced one kind after the other. No text that stands for an icon holds an icon,
so a later replacement finds nothing to do in what an earlier one has put in. All replacements together
therefore put in, for each character, what stands for it (`replaceInTurn_eq_flatMap`), in whatever order
the icons are listed, and what has been replaced once stays as it is.
-/

namespace StyleAudit

/-! ## Replacing in turn and replacing at once -/

section

variable {table order : List (Char × String)} {chars : List Char} {c : Char}

/-- What is shown for a character: the text that the table has for it, else the character. -/
def standIn (table : List (Char × String)) (c : Char) : List Char :=
  match table.lookup c with
  | some text => text.toList
  | none => [c]

/-- Puts the texts of the table in place of its characters, for one of them after the other. -/
def replaceInTurn (table : List (Char × String)) (chars : List Char) : List Char :=
  table.foldl (fun chars icon => replaceIcon icon.1 icon.2 chars) chars

/-- No text of the table holds a character that the table replaces. -/
def Settled (table : List (Char × String)) : Prop :=
  ∀ icon ∈ table, ∀ other ∈ table, icon.1 ∉ other.2.toList

theorem standIn_of_not_mem (fresh : c ∉ table.map Prod.fst) : standIn table c = [c] := by
  have unlisted : table.lookup c = none := by
    rw [List.lookup_eq_none_iff]
    intro icon member
    have apart : c ≠ icon.1 := fun same => fresh (List.mem_map.2 ⟨icon, member, same.symm⟩)
    simpa using apart
  rw [standIn, unlisted]

theorem flatMap_standIn_eq_self (fresh : ∀ c ∈ chars, c ∉ table.map Prod.fst) :
    chars.flatMap (standIn table) = chars := by
  rw [List.flatMap_congr fun c member => standIn_of_not_mem (fresh c member),
    List.flatMap_singleton']

theorem standIn_cons (icon : Char) (text : String) (rest : List (Char × String)) (c : Char) :
    standIn ((icon, text) :: rest) c = if c = icon then text.toList else standIn rest c := by
  by_cases same : c = icon
  · simp [standIn, same]
  · have differs : (c == icon) = false := by simpa using same
    simp [standIn, List.lookup_cons, differs, same]

theorem replaceInTurn_eq_flatMap (settled : Settled table) (chars : List Char) :
    replaceInTurn table chars = chars.flatMap (standIn table) := by
  induction table generalizing chars with
  | nil => exact (flatMap_standIn_eq_self fun _ _ => List.not_mem_nil).symm
  | cons first rest ih =>
      obtain ⟨icon, text⟩ := first
      have later : Settled rest := fun icon member other among =>
        settled icon (List.mem_cons_of_mem _ member) other (List.mem_cons_of_mem _ among)
      -- What has just been put in holds no character that is still to be replaced.
      have kept : text.toList.flatMap (standIn rest) = text.toList := by
        refine flatMap_standIn_eq_self fun c inside listed => ?_
        obtain ⟨other, member, rfl⟩ := List.mem_map.1 listed
        exact settled other (List.mem_cons_of_mem _ member) _ List.mem_cons_self inside
      calc replaceInTurn ((icon, text) :: rest) chars
          = (replaceIcon icon text chars).flatMap (standIn rest) := ih later _
        _ = chars.flatMap fun c =>
              (if c = icon then text.toList else [c]).flatMap (standIn rest) := List.flatMap_assoc
        _ = chars.flatMap (standIn ((icon, text) :: rest)) := by
              refine List.flatMap_congr fun c _ => ?_
              rw [standIn_cons]
              split
              · exact kept
              · exact List.flatMap_singleton _ _

/-! ## The order of the table -/

theorem lookup_eq_some_iff_mem {text : String} (distinct : (table.map Prod.fst).Nodup) :
    table.lookup c = some text ↔ (c, text) ∈ table := by
  induction table with
  | nil => simp
  | cons first rest ih =>
      obtain ⟨icon, other⟩ := first
      obtain ⟨fresh, distinct⟩ := List.nodup_cons.1 distinct
      by_cases same : c = icon
      · subst same
        have unlisted : (c, text) ∉ rest := fun member =>
          fresh (List.mem_map.2 ⟨_, member, rfl⟩)
        simp [unlisted, eq_comm]
      · have differs : (c == icon) = false := by simpa using same
        simp [List.lookup_cons, differs, same, ih distinct]

theorem standIn_of_perm (same : order.Perm table) (distinct : (table.map Prod.fst).Nodup) :
    standIn order = standIn table := by
  have names : (order.map Prod.fst).Nodup := (same.map _).nodup_iff.2 distinct
  have found : ∀ c, order.lookup c = table.lookup c := by
    intro c
    refine Option.ext fun text => ?_
    rw [lookup_eq_some_iff_mem names, lookup_eq_some_iff_mem distinct, same.mem_iff]
  funext c
  rw [standIn, standIn, found]

theorem Settled.of_perm (settled : Settled table) (same : order.Perm table) : Settled order :=
  fun icon member other among => settled icon (same.mem_iff.1 member) other (same.mem_iff.1 among)

end

/-! ## Icons -/

/-- A character that some terminals cannot show. -/
def IsIcon (c : Char) : Prop := c ∈ icons.map Prod.fst

instance : DecidablePred IsIcon := fun c => inferInstanceAs (Decidable (c ∈ icons.map Prod.fst))

theorem settled_icons : Settled icons := by
  unfold Settled
  decide

theorem nodup_icons : (icons.map Prod.fst).Nodup := by decide

theorem toList_replaceIcons (text : String) :
    (replaceIcons text).toList = text.toList.flatMap (standIn icons) := by
  rw [replaceIcons, String.toList_ofList]
  exact replaceInTurn_eq_flatMap settled_icons _

theorem replaceInTurn_of_perm {order : List (Char × String)} (same : order.Perm icons) (text : String) :
    replaceInTurn order text.toList = (replaceIcons text).toList := by
  rw [replaceInTurn_eq_flatMap (settled_icons.of_perm same), standIn_of_perm same nodup_icons,
    toList_replaceIcons]

theorem not_isIcon_of_mem_standIn {c d : Char} (shown : d ∈ standIn icons c) : ¬ IsIcon d := by
  unfold standIn at shown
  split at shown
  · rename_i text found
    intro isIcon
    obtain ⟨icon, member, rfl⟩ := List.mem_map.1 isIcon
    exact settled_icons icon member _ ((lookup_eq_some_iff_mem nodup_icons).1 found) shown
  · rename_i unlisted
    obtain rfl := List.mem_singleton.1 shown
    intro isIcon
    obtain ⟨icon, member, rfl⟩ := List.mem_map.1 isIcon
    simpa using List.lookup_eq_none_iff.1 unlisted icon member

theorem not_isIcon_of_mem_replaceIcons {text : String} {c : Char}
    (shown : c ∈ (replaceIcons text).toList) : ¬ IsIcon c := by
  rw [toList_replaceIcons] at shown
  obtain ⟨d, -, inside⟩ := List.mem_flatMap.1 shown
  exact not_isIcon_of_mem_standIn inside

theorem replaceIcons_idempotent (text : String) : replaceIcons (replaceIcons text) = replaceIcons text := by
  rw [← String.toList_inj, toList_replaceIcons]
  exact flatMap_standIn_eq_self fun c shown => not_isIcon_of_mem_replaceIcons shown

theorem replaceIcons_append (left right : String) :
    replaceIcons (left ++ right) = replaceIcons left ++ replaceIcons right := by
  simp [← String.toList_inj, toList_replaceIcons]

theorem filter_sublist_flatMap_standIn (chars : List Char) :
    (chars.filter fun c => ¬ IsIcon c).Sublist (chars.flatMap (standIn icons)) := by
  induction chars with
  | nil => exact .slnil
  | cons c rest ih =>
      rw [List.flatMap_cons]
      by_cases icon : IsIcon c
      · rw [List.filter_cons_of_neg (by simpa using icon)]
        exact ih.trans (List.sublist_append_right _ _)
      · rw [List.filter_cons_of_pos (by simpa using icon), standIn_of_not_mem icon]
        exact ih.cons_cons c

/-! ## Terminals and consoles -/

theorem mapM_eq_ok_map {ε α β : Type} {f : α → Except ε β} {g : α → β} (each : ∀ a, f a = .ok (g a))
    (l : List α) : l.mapM f = .ok (l.map g) := by
  have pure_each : f = fun a => pure (g a) := funext each
  rw [pure_each, List.mapM_pure]
  rfl

/-- A text or an object, with the icons of a text replaced. -/
def Printed.withoutIcons {α : Type} : Printed α → Printed α
  | .text words => .text (replaceIcons words)
  | .object drawn => .object drawn

section

variable {t : Terminal} {name : String}

theorem sanitize_of_encoding (encoding : t.encoding = .ok name)
    (other : Terminal.isUtf8Name name = false) (text : String) :
    t.sanitize text = .ok (replaceIcons text) := by
  simp [Terminal.sanitize, Terminal.showsAll, encoding, other, bind, Except.bind, pure, Except.pure]

theorem open_of_encoding (encoding : t.encoding = .ok name)
    (other : Terminal.isUtf8Name name = false) (platform : String) :
    Console.open_ t platform = .ok ⟨true, platform == "win32"⟩ := by
  simp [Console.open_, Terminal.showsAll, encoding, other, bind, Except.bind, pure, Except.pure]

theorem print_of_encoding {α : Type} {console : Console} (sanitizes : console.sanitizes = true)
    (encoding : t.encoding = .ok name) (other : Terminal.isUtf8Name name = false)
    (objects : List (Printed α)) :
    console.print t objects = .ok (objects.map Printed.withoutIcons) := by
  rw [Console.print, if_pos sanitizes]
  refine mapM_eq_ok_map (fun object => ?_) objects
  cases object with
  | text words =>
      simp only [sanitize_of_encoding encoding other, bind, Except.bind]
      rfl
  | object drawn => rfl

theorem not_isIcon_of_printed {α : Type} {objects : List (Printed α)} {text : String}
    (printed : .text text ∈ objects.map Printed.withoutIcons) : ∀ c ∈ text.toList, ¬ IsIcon c := by
  obtain ⟨object, -, same⟩ := List.mem_map.1 printed
  cases object with
  | text words =>
      obtain rfl := Printed.text.inj same
      exact fun c shown => not_isIcon_of_mem_replaceIcons shown
  | object drawn => cases same

theorem icons_replaced_at_once (encoding : t.encoding = .ok name)
    (other : Terminal.isUtf8Name name = false) :
    (∀ text, ∃ shown, t.sanitize text = .ok shown ∧
      shown.toList = text.toList.flatMap (standIn icons) ∧
      (∀ order : List (Char × String), order.Perm icons →
        replaceInTurn order text.toList = shown.toList) ∧
      (∀ c ∈ shown.toList, ¬ IsIcon c) ∧
      (text.toList.filter fun c => ¬ IsIcon c).Sublist shown.toList ∧
      t.sanitize shown = .ok shown) ∧
    (∀ left right, t.sanitize (left ++ right) =
      do return (← t.sanitize left) ++ (← t.sanitize right)) ∧
    ∀ platform, ∃ console, Console.open_ t platform = .ok console ∧
      ∀ (α : Type) (objects : List (Printed α)), ∃ printed, console.print t objects = .ok printed ∧
        printed = objects.map Printed.withoutIcons ∧
        ∀ text, .text text ∈ printed → ∀ c ∈ text.toList, ¬ IsIcon c := by
  have sanitized := sanitize_of_encoding encoding other
  refine ⟨fun text => ⟨replaceIcons text, sanitized text, toList_replaceIcons text,
    fun order same => replaceInTurn_of_perm same text,
    fun c shown => not_isIcon_of_mem_replaceIcons shown, ?_, ?_⟩, fun left right => ?_,
    fun platform => ⟨_, open_of_encoding encoding other platform, fun α objects => ⟨_,
      print_of_encoding rfl encoding other objects, rfl, fun text => not_isIcon_of_printed⟩⟩⟩
  · rw [toList_replaceIcons]
    exact filter_sublist_flatMap_standIn _
  · rw [sanitized, replaceIcons_idempotent]
  · rw [sanitized, sanitized, sanitized, replaceIcons_append]
    rfl

end

/-- The hyphen and the dots that are put in are no icons, so the later replacements pass over them. -/
theorem icons_replaced_at_once_sample :
    (Terminal.named "cp1252").encoding = .ok "cp1252" ∧ Terminal.isUtf8Name "cp1252" = false ∧
    (Terminal.named "cp1252").sanitize "✓ a─→b…" = .ok "[OK] a-->b..." ∧
    (∀ c ∈ "[OK] a-->b...".toList, ¬ IsIcon c) ∧
    ("✓ a─→b…".toList.filter fun c => ¬ IsIcon c).Sublist "[OK] a-->b...".toList ∧
    ∃ console, Console.open_ (.named "cp1252") "linux" = .ok console ∧
      ∃ printed, console.print (.named "cp1252") [.text "✓ a─→b…", .object 0] = .ok printed ∧
        printed = [.text "[OK] a-->b...", .object 0] := by
  have encoding : (Terminal.named "cp1252").encoding = .ok "cp1252" :=
    congrArg Except.ok (by decide +kernel : Text.lowercase "cp1252" = "cp1252")
  have other : Terminal.isUtf8Name "cp1252" = false := by decide +kernel
  obtain ⟨sanitizes, -, consoles⟩ := icons_replaced_at_once encoding other
  obtain ⟨shown, sanitized, once, -, plain, kept, -⟩ := sanitizes "✓ a─→b…"
  obtain rfl : shown = "[OK] a-->b..." :=
    String.toList_inj.1 (once.trans (by decide +kernel))
  obtain ⟨console, opened, prints⟩ := consoles "linux"
  obtain ⟨printed, handed, same, -⟩ := prints Nat [.text "✓ a─→b…", .object 0]
  have replaced : replaceIcons "✓ a─→b…" = "[OK] a-->b..." := by decide +kernel
  refine ⟨encoding, other, sanitized, plain, kept, console, opened, printed, handed, ?_⟩
  rw [same, ← replaced]
  rfl

end StyleAudit
