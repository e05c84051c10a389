import StyleAudit.Proofs.StyleObjects

/-!
# Where findings point

A finding stands at an entry of an object that a declarator binds, namely at the last entry of its
name in the order of a walk, and no two findings have the same name. Entries whose key cannot be read
from the source give no finding. Objects below the levels that lowering examines do not count: their
entries declare nothing, so a finding may stand above an entry of its name in one of them.
-/

namespace StyleAudit.Syntax.Node

/-- Entries without a key that can be read: spreads, and entries whose key is computed, a number or an
empty string. -/
inductive Keyless (e : Node) : Prop
  | spread (kind : e.kind = "spread_element")
  | computed {key : Node} (keyed : e.keyNode? = some key) (kind : key.kind = "computed_property_name")
  | numeric {key : Node} (keyed : e.keyNode? = some key) (kind : key.kind = "number")
  | empty {key : Node} (keyed : e.keyNode? = some key) (kind : key.kind = "string")
      (spelled : key.spelling = "''" ∨ key.spelling = "\"\"")

/-- Of all entries for the style, in the order of a walk, `e` is the last. Only objects at levels that
count are looked at. -/
inductive DeclaredLast (root : Node) (counts : Nat → Prop) (style : String) (e : Node) : Prop
  | intro {d object : Node} {container : String} {levels : Nat} {before after first last : List Node}
      (walked : root.preorder = before ++ d :: after) (binds : d.BindsObject container levels object)
      (counted : counts levels) (entries : object.namedChildren = first ++ e :: last)
      (key : e.styleKey? = some style) (latest : ∀ other ∈ last, other.styleKey? ≠ some style)
      (later : ∀ n ∈ after, ∀ name deep below, n.BindsObject name deep below → counts deep →
        ∀ other ∈ below.namedChildren, other.styleKey? ≠ some style)

end StyleAudit.Syntax.Node

namespace StyleAudit

open Syntax

/-! ## Keys -/

theorem styleKey?_of_keyless {e : Node} (keyless : e.Keyless) : e.styleKey? = none := by
  cases keyless with
  | spread kind =>
      rw [Node.styleKey?, Node.keyNode?, kind]
      rfl
  | computed keyed kind =>
      rw [Node.styleKey?, keyed, Option.bind_some, staticKey, kind]
      rfl
  | numeric keyed kind =>
      rw [Node.styleKey?, keyed, Option.bind_some, staticKey, kind]
      rfl
  | empty keyed kind spelled =>
      rw [Node.styleKey?, keyed, Option.bind_some, staticKey, kind]
      rcases spelled with spelled | spelled <;> rw [spelled] <;> decide

theorem kind_of_styleKey? {e : Node} {key : String} (keyed : e.styleKey? = some key) :
    e.kind ∈ ["pair", "shorthand_property_identifier", "method_definition"] := by
  unfold Node.styleKey? Node.keyNode? at keyed
  split at keyed
  · simp [*]
  · simp [*]
  · simp [*]
  · cases keyed

/-! ## The last entry of a tree -/

theorem mem_of_append_cons_eq {α : Type} {before after above below : List α} {a b : α}
    (same : before ++ a :: after = above ++ b :: below) :
    b ∈ after ∨ (a = b ∧ after = below) ∨ a ∈ below := by
  rcases List.append_eq_append_iff.1 same with ⟨between, -, rest⟩ | ⟨between, -, rest⟩
  · cases between with
    | nil => exact .inr (.inl (List.cons.inj rest))
    | cons _ more =>
        refine .inl ?_
        rw [(List.cons.inj rest).2]
        exact List.mem_append_right _ List.mem_cons_self
  · cases between with
    | nil => exact .inr (.inl ⟨(List.cons.inj rest).1.symm, (List.cons.inj rest).2.symm⟩)
    | cons _ more =>
        refine .inr (.inr ?_)
        rw [(List.cons.inj rest).2]
        exact List.mem_append_right _ List.mem_cons_self

namespace Syntax.Node.DeclaredLast

variable {root e other : Node} {counts : Nat → Prop} {style : String}

theorem styleKey?_eq (last : root.DeclaredLast counts style e) : e.styleKey? = some style := by
  cases last with
  | intro _ _ _ _ key _ _ => exact key

theorem unique (first : root.DeclaredLast counts style e)
    (second : root.DeclaredLast counts style other) : e = other := by
  cases first with
  | intro walked binds counted entries key latest later =>
  cases second with
  | intro walked' binds' counted' entries' key' latest' later' =>
      rcases mem_of_append_cons_eq (walked.symm.trans walked') with below | ⟨rfl, -⟩ | above
      · have listed := entries' ▸ List.mem_append_right _ List.mem_cons_self
        exact absurd key' (later _ below _ _ _ binds' counted' _ listed)
      · obtain rfl := binds.unique binds'
        rcases mem_of_append_cons_eq (entries.symm.trans entries') with below | ⟨same, -⟩ | above
        · exact absurd key' (latest _ below)
        · exact same
        · exact absurd key (latest' _ above)
      · have listed := entries ▸ List.mem_append_right _ List.mem_cons_self
        exact absurd key (later' _ above _ _ _ binds counted _ listed)

end Syntax.Node.DeclaredLast

/-! ## The last entry of a history -/

theorem lookup_of_mem_latest {α : Type} {history : List (String × α)} {name : String} {value : α}
    (member : (name, value) ∈ latest history) : history.reverse.lookup name = some value := by
  obtain ⟨key, -, found⟩ := List.mem_filterMap.1 member
  obtain ⟨last, looked, equal⟩ := Option.map_eq_some_iff.1 found
  obtain ⟨rfl, rfl⟩ := Prod.mk.inj equal
  exact looked

theorem lookup_reverse_flatMap {α β : Type} {f : α → List (String × β)} {items : List α}
    {name : String} {value : β} (found : (items.flatMap f).reverse.lookup name = some value) :
    ∃ before a after, items = before ++ a :: after ∧ (f a).reverse.lookup name = some value ∧
      ∀ b ∈ after, name ∉ (f b).map (·.1) := by
  induction items with
  | nil => cases found
  | cons a rest ih =>
      rw [List.flatMap_cons, List.reverse_append, List.lookup_append] at found
      -- The entries of later items come first in the reversed list.
      cases later : (rest.flatMap f).reverse.lookup name with
      | some other =>
          rw [later, Option.some_or] at found
          obtain ⟨before, b, after, split, here, absent⟩ := ih (later.trans found)
          exact ⟨a :: before, b, after, by rw [split, List.cons_append], here, absent⟩
      | none =>
          rw [later, Option.none_or] at found
          refine ⟨[], a, rest, rfl, found, fun b member named => ?_⟩
          obtain ⟨entry, listed, rfl⟩ := List.mem_map.1 named
          have absent := List.lookup_eq_none_iff.1 later entry
            (List.mem_reverse.2 (List.mem_flatMap.2 ⟨b, member, listed⟩))
          simp at absent

theorem lookup_reverse_filterMap {α β : Type} {f : α → Option (String × β)} {items : List α}
    {name : String} {value : β} (found : (items.filterMap f).reverse.lookup name = some value) :
    ∃ before a after, items = before ++ a :: after ∧ f a = some (name, value) ∧
      ∀ b ∈ after, ∀ other, f b ≠ some (name, other) := by
  rw [List.filterMap_eq_flatMap_toList] at found
  obtain ⟨before, a, after, split, here, absent⟩ := lookup_reverse_flatMap found
  refine ⟨before, a, after, split, ?_, fun b member other equal => ?_⟩
  · cases entry : f a with
    | none => simp [entry] at here
    | some pair =>
        obtain ⟨key, last⟩ := pair
        by_cases same : name = key
        · simpa [entry, same, List.lookup_cons] using here
        · have apart : (name == key) = false := by simpa using same
          simp [entry, List.lookup_cons, apart] at here
  · have listed := absent b member
    simp [equal] at listed

/-! ## Sites and their entries -/

theorem sites_split {root : Node} {before after : List Site} {s : Site}
    (split : root.sites = before ++ s :: after) :
    ∃ first d last, root.preorder = first ++ d :: last ∧ lowerSite? d = some s ∧
      last.filterMap lowerSite? = after := by
  obtain ⟨first, rest, walked, -, tail⟩ := List.filterMap_eq_append_iff.1 split
  obtain ⟨between, d, last, inner, -, lowered, remaining⟩ := List.filterMap_eq_cons_iff.1 tail
  exact ⟨first ++ between, d, last, by rw [walked, inner, List.append_assoc], lowered, remaining⟩

theorem declaredLast_of_lookup {root : Node} {style : String} {entry : Entry}
    (found : (root.sites.flatMap Site.members).reverse.lookup style = some entry) :
    ∃ e, root.DeclaredLast Examined style e ∧ entry.loc = e.location := by
  obtain ⟨before, s, after, split, here, absent⟩ := lookup_reverse_flatMap found
  obtain ⟨above, d, below, walked, lowered, remaining⟩ := sites_split split
  have filled : s.members ≠ [] := by
    intro none
    rw [none] at here
    cases here
  obtain ⟨container, levels, object, budget, binds, examined, members⟩ :=
    bindsObject_of_members lowered filled
  rw [members] at here
  obtain ⟨first, e, last, entries, member, silent⟩ := lookup_reverse_filterMap here
  obtain ⟨key, place⟩ := styleMember?_eq_some member
  refine ⟨e, .intro walked binds examined entries key ?_ ?_, place⟩
  · intro other later keyed
    obtain ⟨others, known⟩ := styleMember?_of_styleKey? keyed budget
    exact silent other later others known
  · intro n later name deep object binds examined other listed keyed
    obtain ⟨site, lowers, member, among, named, -⟩ := member_of_bindsObject binds examined listed keyed
    have site_after : site ∈ after := remaining ▸ List.mem_filterMap.2 ⟨n, later, lowers⟩
    exact absent site site_after (List.mem_map.2 ⟨member, among, named⟩)

/-! ## Findings -/

theorem mem_report {sites : List Site} {f : Finding} (reported : f ∈ report sites) :
    (sites.flatMap Site.members).reverse.lookup f.name = some f.entry := by
  obtain ⟨style, kept, rfl⟩ := List.mem_map.1 reported
  exact lookup_of_mem_latest (List.mem_filter.1 kept).1

theorem nodup_unused {t : SymbolTable} (nodup : t.definitions.keys.Nodup) :
    ((Analyzer.unused t).map (·.name)).Nodup := by
  have names : (Analyzer.unused t).map (·.name) = t.unusedDefinitions.map (·.1) := by
    simp [Analyzer.unused, Function.comp_def]
  rw [names]
  exact nodup.sublist (List.filter_sublist.map _)

theorem findings_declared_last (root : Node) : ∃ findings, analyzeTree root = .ok findings ∧
    (findings.map (·.name)).Nodup ∧
    ∀ f ∈ findings, ∃ e, root.DeclaredLast Examined f.name e ∧
      f.line = e.start.row + 1 ∧ f.column = e.start.column + 1 ∧
      e.kind ∈ ["pair", "shorthand_property_identifier", "method_definition"] ∧ ¬ e.Keyless := by
  have reads := reads_takeSites root.sites
  refine ⟨_, analyzeTree_eq_unused root, nodup_unused reads.definitions.nodup, fun f found => ?_⟩
  rw [reads.unused_eq] at found
  obtain ⟨e, last, place⟩ := declaredLast_of_lookup (mem_report found)
  have key := last.styleKey?_eq
  refine ⟨e, last, ?_, ?_, kind_of_styleKey? key, fun keyless => ?_⟩
  · rw [Finding.line, place]
    rfl
  · rw [Finding.column, place]
    rfl
  · rw [styleKey?_of_keyless keyless] at key
    cases key

namespace Sample

def buriedEntry : Node :=
  .branch "pair" ⟨1, 0⟩ [
    (word "property_identifier" [0x62, 0x6f, 0x78]).filling "key",
    (tree "object" []).filling "value"]

/-- An object with an entry on the second line, in so many pairs of parentheses. -/
def buried : Nat → Node
  | 0 => tree "object" [buriedEntry]
  | pairs + 1 => tree "parenthesized_expression" [buried pairs]

theorem unwraps_buried (pairs : Nat) : (buried pairs).Unwraps pairs (tree "object" [buriedEntry]) := by
  induction pairs with
  | zero => exact .here _
  | succ pairs ih =>
      have inner : (buried (pairs + 1)).parts.head? = some (buried pairs) := by cases pairs <;> rfl
      exact .step rfl List.mem_cons_self inner ih

def buriedSheet : Node :=
  tree "variable_declarator" [
    (word "identifier" [0x73]).filling "name",
    (tree "call_expression" [
      factory.filling "function",
      (tree "arguments" [buried 100]).filling "arguments"]).filling "value"]

theorem buriedSheet_binds :
    buriedSheet.BindsObject ((word "identifier" [0x73]).filling "name").spelling (0 + 1 + 100)
      (tree "object" [buriedEntry]) :=
  .intro rfl rfl rfl rfl (.here _) rfl rfl rfl rfl (unwraps_buried 100) rfl rfl rfl rfl

def buriedProgram : Node := tree "program" [sheet, buriedSheet]

theorem buriedEntry_last : buriedProgram.DeclaredLast (fun _ => True) "box" buriedEntry := by
  have walked : buriedProgram.preorder = (buriedProgram :: sheet.preorder) ++
      buriedSheet :: buriedSheet.namedChildren.flatMap Node.preorder := by
    have children : buriedProgram.namedChildren = [sheet, buriedSheet] := rfl
    rw [Node.preorder_eq buriedProgram, children, List.flatMap_cons, List.flatMap_singleton,
      Node.preorder_eq buriedSheet, List.cons_append]
  have inside : ∀ n ∈ buriedSheet.namedChildren.flatMap Node.preorder,
      n.kind ≠ "variable_declarator" := by decide +kernel
  refine .intro walked buriedSheet_binds trivial (@rfl _ ([] ++ buriedEntry :: [])) (by decide) ?_ ?_
  · intro other member
    cases member
  · intro n member name deep below binds
    cases binds with
    | intro kind => exact absurd kind (inside n member)

end Sample

open Sample in
/-- The last entry in an object that is too deep is not the one that a finding points at. -/
theorem finding_above_buried_entry : ∃ findings, analyzeTree buriedProgram = .ok findings ∧
    ¬ ∀ f ∈ findings, ∃ e, buriedProgram.DeclaredLast (fun _ => True) f.name e ∧
      f.line = e.start.row + 1 ∧ f.column = e.start.column + 1 := by
  refine ⟨_, analyzeTree_eq_unused buriedProgram, fun pointed => ?_⟩
  have lines : (Analyzer.unused (SymbolTable.empty.takeSites buriedProgram.sites)).map
      (fun f => (f.name, f.line)) = [("box", 1)] := by decide
  obtain ⟨f, found, shown⟩ := List.mem_map.1 (lines ▸ List.mem_singleton.2 rfl)
  obtain ⟨name, line⟩ := Prod.mk.inj shown
  obtain ⟨e, last, stands, -⟩ := pointed f found
  rw [name] at last
  rw [line, last.unique buriedEntry_last] at stands
  cases stands

end StyleAudit
