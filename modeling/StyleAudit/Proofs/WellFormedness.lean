import StyleAudit.Proofs.Parts
import StyleAudit.Proofs.StyleObjects

/-!
# Lowered terms are well formed

What the analysis takes for granted about the terms that it is given. Each level of a lowered expression
has what its constructor asks for (`Term.LevelOk`): values where a value has to be, properties in objects
and nowhere else, keys and members that are not empty, and operators in the terms that they belong to.
One level of lowering keeps this (`wellFormed_lowerNode`), for any tree.
-/

namespace StyleAudit

open Syntax

/-! ## Terms -/

/-- A term that may stand where a value has to be: an expression, but no property. -/
def Term.IsValue : Term → Prop
  | .absent | .property .. | .objectPattern .. | .binding .. | .attr .. | .returned ..
  | .assignment .. => False
  | .other .. | .identifier .. | .member .. | .spread .. | .array .. | .object .. | .conditional ..
  | .logical .. | .binary .. | .unary .. | .update .. | .call .. => True

/-- A term that may stand where a value can be left out. -/
def Term.IsOperand (t : Term) : Prop := t = .absent ∨ t.IsValue

/-- A term that may stand in an object: a property, or a spread that may have been cut off. -/
def Term.IsEntry : Term → Prop
  | .property .. | .spread .. => True
  | .other kind _ => kind = "spread_element"
  | _ => False

/-- What a term asks of its own fields. Patterns and sites are no expressions. -/
def Term.LevelOk : Term → Prop
  | .absent | .other .. | .identifier .. => True
  | .member base name _ => base.IsValue ∧ name ≠ some ""
  | .spread argument _ => argument.IsOperand
  | .array elements _ => ∀ t ∈ elements, t.IsValue
  | .property key value _ => key ≠ some "" ∧ value.IsOperand
  | .object entries _ => ∀ t ∈ entries, t.IsEntry
  | .conditional test consequent alternate _ =>
    test.IsOperand ∧ consequent.IsOperand ∧ alternate.IsOperand
  | .logical operator left right _ =>
    operator ∈ ["&&", "||", "??"] ∧ left.IsOperand ∧ right.IsOperand
  | .binary operator left right _ =>
    operator ∉ ["&&", "||", "??"] ∧ left.IsOperand ∧ right.IsOperand
  | .unary _ argument _ => argument.IsOperand
  | .update _ argument _ => argument.IsOperand
  | .call callee arguments _ => callee.IsOperand ∧ ∀ t ∈ arguments, t.IsValue
  | .objectPattern .. | .binding .. | .attr .. | .returned .. | .assignment .. => False

def Term.loc? : Term → Option Location
  | .absent => none
  | .other _ loc => some loc
  | .identifier _ loc => some loc
  | .member _ _ loc => some loc
  | .spread _ loc => some loc
  | .array _ loc => some loc
  | .property _ _ loc => some loc
  | .object _ loc => some loc
  | .conditional _ _ _ loc => some loc
  | .logical _ _ _ loc => some loc
  | .binary _ _ _ loc => some loc
  | .unary _ _ loc => some loc
  | .update _ _ loc => some loc
  | .call _ _ loc => some loc
  | .objectPattern _ loc => some loc
  | .binding _ _ loc => some loc
  | .attr _ _ loc => some loc
  | .returned _ loc => some loc
  | .assignment _ _ _ loc => some loc

/-- The location counts lines and columns from one. -/
def FromOne (loc : Location) : Prop := 1 ≤ loc.line ∧ 1 ≤ loc.column

/-- A level that has what it asks for, at a place of the source. -/
structure Term.Sound (t : Term) : Prop where
  level : t.LevelOk
  located : ∀ loc, t.loc? = some loc → FromOne loc

/-- An expression that is sound at every level. -/
structure Term.WellFormed (t : Term) : Prop where
  value : t.IsValue
  levels : ∀ u, t.Holds u → u.Sound

/-! ## One level -/

theorem fromOne_location (n : Node) : FromOne n.location :=
  ⟨Nat.le_add_left _ _, Nat.le_add_left _ _⟩

theorem nonEmpty?_ne_empty (text : String) : nonEmpty? text ≠ some "" := by
  unfold nonEmpty?
  split
  · simp
  · rename_i filled
    rintro empty
    cases empty
    exact filled rfl

theorem staticKey_ne_empty (n : Node) : staticKey n ≠ some "" := by
  unfold staticKey
  split
  · exact nonEmpty?_ne_empty _
  · exact nonEmpty?_ne_empty _
  · exact nonEmpty?_ne_empty _
  · exact nonEmpty?_ne_empty _
  · cases unquoted? n.spelling with
    | none => simp
    | some inside => exact nonEmpty?_ne_empty inside
  · simp

theorem bind_ne_some {α β : Type} {f : α → Option β} {b : β} (never : ∀ a, f a ≠ some b)
    (o : Option α) : o.bind f ≠ some b := by
  cases o with
  | none => simp
  | some a => exact never a

theorem isLogicalOperator_iff (operator : String) :
    isLogicalOperator operator = true ↔ operator ∈ ["&&", "||", "??"] := by
  simp [isLogicalOperator, or_assoc]

theorem wellFormed_unexamined (n : Node) : (unexamined n).WellFormed where
  value := trivial
  levels := by
    refine forall_holds_iff.2 ⟨⟨trivial, ?_⟩, by simp [unexamined, Term.parts]⟩
    rintro loc ⟨⟩
    exact fromOne_location n

/-- What a level of lowering relies on, and provides. -/
structure LowersWell (lower : Node → Term) : Prop where
  wellFormed : ∀ n, (lower n).WellFormed
  entry : ∀ n, n.kind = "spread_element" → (lower n).IsEntry

section

variable {lower : Node → Term} {t : Term}

theorem Term.WellFormed.sound (wellFormed : t.WellFormed) : t.Sound := wellFormed.levels t .refl

namespace LowersWell

theorem of_brought (well : LowersWell lower) (brought : Brought lower t) :
    t.IsOperand ∧ ∀ u, t.Holds u → u.Sound := by
  cases brought with
  | absent =>
      refine ⟨.inl rfl, forall_holds_iff.2 ⟨⟨trivial, ?_⟩, by simp [Term.parts]⟩⟩
      rintro loc ⟨⟩
  | lowered child => exact ⟨.inr (well.wellFormed child).value, (well.wellFormed child).levels⟩
  | unexamined child =>
      exact ⟨.inr (wellFormed_unexamined child).value, (wellFormed_unexamined child).levels⟩

theorem operand (well : LowersWell lower) (child : Option Node) : (lowerChild lower child).IsOperand :=
  (well.of_brought (brought_lowerChild child)).1

theorem of_broughtProperty (well : LowersWell lower) (property : BroughtProperty lower t) :
    ∀ u, t.Holds u → u.Sound := by
  obtain ⟨key, item, brought⟩ := property
  obtain ⟨operand, levels⟩ := well.of_brought brought
  refine forall_holds_iff.2 ⟨⟨⟨bind_ne_some staticKey_ne_empty key, operand⟩, ?_⟩, ?_⟩
  · rintro loc ⟨⟩
    exact fromOne_location item
  · intro u part
    rw [List.mem_singleton.1 part]
    exact levels

theorem entry_of_item {item : Node} (well : LowersWell lower) (lowered : lowerItem? lower item = some t) :
    t.IsEntry := by
  rcases lowerItem?_cases lowered with ⟨kind, rfl⟩ | property
  · exact well.entry item kind
  · cases property
    trivial

theorem sound_lowerNode (well : LowersWell lower) (n : Node) :
    (lowerNode lower n).IsValue ∧ (lowerNode lower n).Sound := by
  have here : ∀ loc, some n.location = some loc → FromOne loc := by
    rintro loc ⟨⟩
    exact fromOne_location n
  have value child := (well.wellFormed child).value
  have cut : (unexamined n).IsValue ∧ (unexamined n).Sound :=
    ⟨trivial, (wellFormed_unexamined n).sound⟩
  unfold lowerNode
  cases Form.ofKind n.kind with
  | wrapper =>
      cases n.parts.head? with
      | none => exact cut
      -- The wrapper itself leaves no level behind.
      | some inner => exact ⟨value inner, (well.wellFormed inner).sound⟩
  | name => exact ⟨trivial, trivial, here⟩
  | member =>
      cases n.child? "object" with
      | none => exact cut
      | some base =>
          refine ⟨trivial, ⟨value base, bind_ne_some (fun property => ?_) _⟩, here⟩
          split
          · exact nonEmpty?_ne_empty _
          · simp
  | subscript =>
      cases n.child? "object" with
      | none => exact cut
      | some base =>
          refine ⟨trivial, ⟨value base, bind_ne_some (fun index => ?_) _⟩, here⟩
          split
          · exact staticKey_ne_empty _
          · simp
  | array =>
      refine ⟨trivial, fun t member => ?_, here⟩
      obtain ⟨child, -, rfl⟩ := List.mem_map.1 member
      exact value child
  | spread => exact ⟨trivial, well.operand _, here⟩
  | object =>
      refine ⟨trivial, fun t member => ?_, here⟩
      obtain ⟨item, -, lowered⟩ := List.mem_filterMap.1 member
      exact well.entry_of_item lowered
  | conditional => exact ⟨trivial, ⟨well.operand _, well.operand _, well.operand _⟩, here⟩
  | binary =>
      dsimp only
      split
      · rename_i logical
        exact ⟨trivial, ⟨(isLogicalOperator_iff _).1 logical, well.operand _, well.operand _⟩, here⟩
      · rename_i arithmetic
        exact ⟨trivial,
          ⟨mt (isLogicalOperator_iff _).2 arithmetic, well.operand _, well.operand _⟩, here⟩
  | unary => exact ⟨trivial, well.operand _, here⟩
  | update => exact ⟨trivial, well.operand _, here⟩
  | call =>
      refine ⟨trivial, ⟨well.operand _, fun t member => ?_⟩, here⟩
      obtain ⟨child, rfl⟩ := exists_of_mem_lowerArguments member
      exact value child
  | other => exact cut

theorem wellFormed_lowerNode (well : LowersWell lower) (n : Node) : (lowerNode lower n).WellFormed where
  value := (well.sound_lowerNode n).1
  levels := by
    refine forall_holds_iff.2 ⟨(well.sound_lowerNode n).2, fun u part => ?_⟩
    rcases brought_of_mem_parts part with ⟨inner, same⟩ | brought | ⟨property, -⟩
    · exact fun v inside => (well.wellFormed inner).levels v (.head (same ▸ part) inside)
    · exact (well.of_brought brought).2
    · exact well.of_broughtProperty property

end LowersWell

theorem isEntry_lowerNode {n : Node} (kind : n.kind = "spread_element") :
    (lowerNode lower n).IsEntry := by
  have form : Form.ofKind n.kind = .spread := by rw [kind]; rfl
  simp [lowerNode, form, Term.IsEntry]

end

/-! ## All levels -/

theorem lowersWell_lowerWithin (budget : Nat) : LowersWell (lowerWithin budget) := by
  -- A spread in an object that is cut off keeps its kind, by which it still counts as an entry.
  induction budget with
  | zero => exact ⟨wellFormed_unexamined, fun n kind => kind⟩
  | succ budget ih =>
      constructor
      · intro n
        rw [lowerWithin]
        split
        · exact wellFormed_unexamined n
        · exact ih.wellFormed_lowerNode n
      · intro n kind
        rw [lowerWithin]
        split
        · exact kind
        · exact isEntry_lowerNode kind

theorem wellFormed_lowerAt (depth : Int) (n : Node) : (lowerAt depth n).WellFormed :=
  (lowersWell_lowerWithin _).wellFormed n

theorem lowerChild_lowerAt_eq_absent_iff (depth : Int) (n : Option Node) :
    lowerChild (lowerAt depth) n = .absent ↔ n = none := by
  cases n with
  | none => simp [lowerChild]
  | some child =>
      have value := (wellFormed_lowerAt depth child).value
      have present : lowerAt depth child ≠ .absent := by
        intro empty
        rw [empty] at value
        exact value
      simpa [lowerChild] using present

/-! ## Sites -/

/-- A binding target: a name, an object taken apart by keys that are not empty, or anything else. -/
def Term.IsTarget : Term → Prop
  | .identifier .. | .other .. => True
  | .objectPattern keys _ => "" ∉ keys
  | _ => False

theorem patternKey?_ne_empty (entry : Node) : patternKey? entry ≠ some "" := by
  unfold patternKey?
  split
  · exact staticKey_ne_empty entry
  · exact bind_ne_some staticKey_ne_empty _
  · exact bind_ne_some staticKey_ne_empty _
  · simp

theorem isTarget_lowerPattern (n : Option Node) : (lowerPattern n).IsTarget := by
  unfold lowerPattern
  split
  · trivial
  · split
    · trivial
    · intro member
      obtain ⟨entry, -, key⟩ := List.mem_filterMap.1 member
      exact patternKey?_ne_empty entry key
    · trivial

theorem loc?_lowerPattern (n : Node) : (lowerPattern (some n)).loc? = some n.location := by
  unfold lowerPattern
  dsimp only
  split <;> rfl

/-- A site as it is made from a node. -/
structure Site.WellFormed (s : Site) (n : Node) : Prop where
  located : FromOne s.loc
  expressions : ∀ t ∈ s.expressions, t = .absent ∨ t.WellFormed
  target : ∀ target init loc, s = .binding target init loc → target.IsTarget
  /-- Only a binding without a target stands at no place of the source. -/
  place : ∀ target init loc, s = .binding target init loc →
    if n.child? "name" = none then target = .other "missing" ⟨0, 0⟩
    else ∀ loc, target.loc? = some loc → FromOne loc

theorem loc_of_lowerSite? {n : Node} {s : Site} (lowered : lowerSite? n = some s) :
    s.loc = n.location := by
  unfold lowerSite? at lowered
  split at lowered <;> cases lowered <;> rfl

theorem wellFormed_of_lowerSite? {n : Node} {s : Site} (lowered : lowerSite? n = some s) :
    s.WellFormed n where
  located := by
    rw [loc_of_lowerSite? lowered]
    exact fromOne_location n
  expressions := by
    intro t member
    obtain ⟨child, rfl⟩ := exists_of_mem_expressions lowered member
    cases child with
    | none => exact .inl rfl
    | some child => exact .inr (wellFormed_lowerAt 0 child)
  target := by
    rintro target init loc rfl
    obtain ⟨-, rfl, -⟩ := lowerSite?_eq_binding lowered
    exact isTarget_lowerPattern _
  place := by
    rintro target init loc rfl
    obtain ⟨-, rfl, -⟩ := lowerSite?_eq_binding lowered
    cases name : n.child? "name" with
    | none => rfl
    | some child =>
        rw [if_neg (by simp), loc?_lowerPattern]
        rintro loc ⟨⟩
        exact fromOne_location child

theorem lowered_terms_well_formed :
    (∀ (depth : Int) (n : Node), (lowerAt depth n).WellFormed) ∧
    (∀ (depth : Int) (n : Option Node), lowerChild (lowerAt depth) n = .absent ↔ n = none) ∧
    ∀ (n : Node) (s : Site), lowerSite? n = some s → s.WellFormed n :=
  ⟨wellFormed_lowerAt, lowerChild_lowerAt_eq_absent_iff, fun _ _ => wellFormed_of_lowerSite?⟩

namespace Sample

/-- The tree of `{ ...s, t }` in a declarator whose name is lost. -/
def namelessBinding : Node :=
  tree "variable_declarator" [
    (tree "object" [tree "spread_element" [word "identifier" [0x73]],
      word "shorthand_property_identifier" [0x74]]).filling "value"]

def namelessSite : Site :=
  .binding (.other "missing" ⟨0, 0⟩)
    (.object [.spread (.identifier "s" ⟨1, 1⟩) ⟨1, 1⟩,
      .property (some "t") (.identifier "t" ⟨1, 1⟩) ⟨1, 1⟩] ⟨1, 1⟩) ⟨1, 1⟩

end Sample

open Sample in
theorem lowered_terms_well_formed_sample :
    lowerSite? namelessBinding = some namelessSite ∧ namelessSite.WellFormed namelessBinding := by
  have lowered : lowerSite? namelessBinding = some namelessSite := by rfl
  exact ⟨lowered, lowered_terms_well_formed.2.2 namelessBinding namelessSite lowered⟩

end StyleAudit
