import StyleAudit.Proofs.Flow
import StyleAudit.Proofs.Operands
import StyleAudit.Proofs.Reading
import Mathlib.Data.List.Forall2

/-!
# What the limit on the depth of an expression costs

Where the limit is not met, it has no effect. Where it is met, parts of the term are cut off: the terms
that lowering gives with fewer levels are prunings of those that it gives with more
(`pruned_lowerWithin`). A value flows through a pruned term as it does through the whole one, until it
comes to a cut, so that a pruning refers to no style that the whole term does not refer to.
-/

namespace StyleAudit

open Syntax Term

/-! ## Prunings -/

/-- The first term is the second with some parts cut off. -/
inductive Term.Pruned : Term → Term → Prop
  | cut {kind loc t} : Pruned (.other kind loc) t
  | absent : Pruned .absent .absent
  | identifier {name loc} : Pruned (.identifier name loc) (.identifier name loc)
  | member {o o' name loc} (object : Pruned o o') : Pruned (.member o name loc) (.member o' name loc)
  | spread {a a' loc} (argument : Pruned a a') : Pruned (.spread a loc) (.spread a' loc)
  | array {ts us loc} (elements : List.Forall₂ Pruned ts us) : Pruned (.array ts loc) (.array us loc)
  | property {key v v' loc} (value : Pruned v v') : Pruned (.property key v loc) (.property key v' loc)
  | object {ts us loc} (entries : List.Forall₂ Pruned ts us) : Pruned (.object ts loc) (.object us loc)
  | conditional {c c' y y' n n' loc} (test : Pruned c c') (consequent : Pruned y y')
      (alternate : Pruned n n') : Pruned (.conditional c y n loc) (.conditional c' y' n' loc)
  | logical {operator l l' r r' loc} (left : Pruned l l') (right : Pruned r r') :
      Pruned (.logical operator l r loc) (.logical operator l' r' loc)
  | binary {operator l l' r r' loc} (left : Pruned l l') (right : Pruned r r') :
      Pruned (.binary operator l r loc) (.binary operator l' r' loc)
  | unary {operator a a' loc} (argument : Pruned a a') :
      Pruned (.unary operator a loc) (.unary operator a' loc)
  | update {operator a a' loc} (argument : Pruned a a') :
      Pruned (.update operator a loc) (.update operator a' loc)
  | call {c c' ts us loc} (callee : Pruned c c') (arguments : List.Forall₂ Pruned ts us) :
      Pruned (.call c ts loc) (.call c' us loc)

theorem exists_mem_of_forall₂ {α β : Type} {R : α → β → Prop} {as : List α} {bs : List β}
    (related : List.Forall₂ R as bs) {a : α} (member : a ∈ as) : ∃ b ∈ bs, R a b := by
  induction related with
  | nil => cases member
  | cons head _ ih =>
      rcases List.mem_cons.1 member with rfl | later
      · exact ⟨_, List.mem_cons_self, head⟩
      · obtain ⟨b, found, pair⟩ := ih later
        exact ⟨b, List.mem_cons_of_mem _ found, pair⟩

namespace Term.Pruned

variable {t u t' : Term} {containers : Containers} {x : String}

theorem entryValue? (pruned : Pruned t u) (value : t.entryValue? = some t') :
    ∃ u', u.entryValue? = some u' ∧ Pruned t' u' := by
  cases pruned with
  | property inner =>
      cases value
      exact ⟨_, rfl, inner⟩
  | spread inner =>
      cases value
      exact ⟨_, rfl, inner⟩
  | _ => cases value

theorem flowStep (pruned : Pruned t u) (step : FlowStep t t') :
    ∃ u', FlowStep u u' ∧ Pruned t' u' := by
  -- Nothing flows out of a cut, so the step leaves a construct that both terms have.
  cases step with
  | element member =>
      cases pruned with
      | array elements =>
          obtain ⟨u', found, inner⟩ := exists_mem_of_forall₂ elements member
          exact ⟨u', .element found, inner⟩
  | entry member value =>
      cases pruned with
      | object entries =>
          obtain ⟨e, found, inner⟩ := exists_mem_of_forall₂ entries member
          obtain ⟨u', brought, inner⟩ := inner.entryValue? value
          exact ⟨u', .entry found brought, inner⟩
  | spread => cases pruned with | spread inner => exact ⟨_, .spread, inner⟩
  | test => cases pruned with | conditional inner _ _ => exact ⟨_, .test, inner⟩
  | consequent => cases pruned with | conditional _ inner _ => exact ⟨_, .consequent, inner⟩
  | alternate => cases pruned with | conditional _ _ inner => exact ⟨_, .alternate, inner⟩
  | value => cases pruned with | property inner => exact ⟨_, .value, inner⟩
  | logicalLeft => cases pruned with | logical inner _ => exact ⟨_, .logicalLeft, inner⟩
  | logicalRight => cases pruned with | logical _ inner => exact ⟨_, .logicalRight, inner⟩
  | binaryLeft => cases pruned with | binary inner _ => exact ⟨_, .binaryLeft, inner⟩
  | binaryRight => cases pruned with | binary _ inner => exact ⟨_, .binaryRight, inner⟩
  | unary => cases pruned with | unary inner => exact ⟨_, .unary, inner⟩
  | update => cases pruned with | update inner => exact ⟨_, .update, inner⟩

theorem flows (pruned : Pruned t u) (flow : t.Flows t') : ∃ u', u.Flows u' ∧ Pruned t' u' := by
  induction flow with
  | refl => exact ⟨u, .refl, pruned⟩
  | tail _ step ih =>
      obtain ⟨middle, flow, inner⟩ := ih
      obtain ⟨u', next, inner⟩ := inner.flowStep step
      exact ⟨u', .tail flow next, inner⟩

theorem mentions (pruned : Pruned t u) (mention : Mentions containers t x) :
    Mentions containers u x := by
  cases mention with
  | access filled =>
      cases pruned with
      | member object =>
          -- A cut is no identifier: the object of the access stands in the whole term, too.
          cases object
          exact .access filled
  | container known member =>
      cases pruned
      exact .container known member

theorem styleNames_subset (pruned : Pruned t u) (containers : Containers) :
    styleNames containers t ⊆ styleNames containers u := by
  intro x named
  obtain ⟨t', flow, mention⟩ := flows_of_mem_styleNames named
  obtain ⟨u', flow, inner⟩ := pruned.flows flow
  exact flow.mem_styleNames (inner.mentions mention).mem_styleNames

end Term.Pruned

/-! ## Fewer levels prune -/

section

variable {f g : Node → Term}

theorem pruned_lowerChild (pruned : ∀ n, (f n).Pruned (g n)) (n : Option Node) :
    (lowerChild f n).Pruned (lowerChild g n) := by
  cases n with
  | none => exact .absent
  | some n => exact pruned n

theorem pruned_map (pruned : ∀ n, (f n).Pruned (g n)) (ns : List Node) :
    List.Forall₂ Pruned (ns.map f) (ns.map g) := by
  induction ns with
  | nil => exact .nil
  | cons n rest ih => exact .cons (pruned n) ih

theorem pruned_lowerItem? (pruned : ∀ n, (f n).Pruned (g n)) (item : Node) :
    Option.Rel Pruned (lowerItem? f item) (lowerItem? g item) := by
  unfold lowerItem?
  split
  · exact .some (.property (pruned_lowerChild pruned _))
  · exact .some (.property (pruned item))
  · exact .some (.property .cut)
  · exact .some (pruned item)
  · exact .none

theorem pruned_filterMap_lowerItem? (pruned : ∀ n, (f n).Pruned (g n)) (items : List Node) :
    List.Forall₂ Pruned (items.filterMap (lowerItem? f)) (items.filterMap (lowerItem? g)) := by
  refine List.rel_filterMap (R := Eq) ?_ (List.forall₂_eq_eq_eq ▸ rfl)
  rintro item _ rfl
  exact pruned_lowerItem? pruned item

theorem pruned_lowerArguments (pruned : ∀ n, (f n).Pruned (g n)) (call : Node) :
    List.Forall₂ Pruned (lowerArguments f call) (lowerArguments g call) := by
  unfold lowerArguments
  split
  · split
    · exact pruned_map pruned _
    · exact .nil
  · exact .nil

theorem pruned_lowerNode (pruned : ∀ n, (f n).Pruned (g n)) (n : Node) :
    (lowerNode f n).Pruned (lowerNode g n) := by
  have child := pruned_lowerChild pruned
  unfold lowerNode
  cases Form.ofKind n.kind with
  | wrapper =>
      cases n.parts.head? with
      | none => exact .cut
      | some inner => exact pruned inner
  | name => exact .identifier
  | member =>
      cases n.child? "object" with
      | none => exact .cut
      | some object => exact .member (pruned object)
  | subscript =>
      cases n.child? "object" with
      | none => exact .cut
      | some object => exact .member (pruned object)
  | array => exact .array (pruned_map pruned _)
  | spread => exact .spread (child _)
  | object => exact .object (pruned_filterMap_lowerItem? pruned _)
  | conditional => exact .conditional (child _) (child _) (child _)
  | binary =>
      dsimp only
      split
      · exact .logical (child _) (child _)
      · exact .binary (child _) (child _)
  | unary => exact .unary (child _)
  | update => exact .update (child _)
  | call => exact .call (child _) (pruned_lowerArguments pruned n)
  | other => exact .cut

end

theorem pruned_lowerWithin {budget larger : Nat} (fewer : budget ≤ larger) (n : Node) :
    (lowerWithin budget n).Pruned (lowerWithin larger n) := by
  induction budget generalizing larger n with
  | zero => exact .cut
  | succ budget ih =>
      obtain ⟨more, rfl⟩ : ∃ more, larger = more + 1 := ⟨larger - 1, by omega⟩
      rw [lowerWithin, lowerWithin]
      split
      · exact .cut
      · exact pruned_lowerNode (ih (by omega)) n

theorem pruned_lowerFully (budget : Nat) (n : Node) : (lowerWithin budget n).Pruned (lowerFully n) := by
  have whole : lowerFully n = lowerWithin (max budget n.size) n :=
    lowerWithin_eq_of_size_le (Nat.le_refl _) (Nat.le_max_right _ _)
  rw [whole]
  exact pruned_lowerWithin (Nat.le_max_left _ _) n

theorem depth_limit_only_loses_names (n : Node) (depth : Int) :
    (∀ m, lowerFully m = if m.missing then unexamined m else lowerNode lowerFully m) ∧
    (StaysWithin depth n → lowerAt depth n = lowerFully n ∧
      ∀ other, StaysWithin other n → lowerAt other n = lowerAt depth n) ∧
    (∀ containers, styleNames containers (lowerAt depth n) ⊆ styleNames containers (lowerFully n)) ∧
    ∀ deeper, depth ≤ deeper → ∀ containers,
      styleNames containers (lowerAt deeper n) ⊆ styleNames containers (lowerAt depth n) := by
  refine ⟨lowerFully_eq, fun stays => ⟨lowerAt_eq_lowerFully stays, fun other again => ?_⟩,
    fun containers => ?_, fun deeper below containers => ?_⟩
  · rw [lowerAt_eq_lowerFully again, lowerAt_eq_lowerFully stays]
  · exact (pruned_lowerFully _ n).styleNames_subset containers
  · have fewer : budgetAt deeper ≤ budgetAt depth := by
      unfold budgetAt
      omega
    exact (pruned_lowerWithin fewer n).styleNames_subset containers

namespace Sample

/-- The tree of `(s).box`. -/
def coveredAccess : Node :=
  tree "member_expression" [
    (tree "parenthesized_expression" [word "identifier" [0x73]]).filling "object",
    (word "property_identifier" [0x62, 0x6f, 0x78]).filling "property"]

theorem staysWithin_coveredAccess : StaysWithin 98 coveredAccess := by
  refine staysWithin_iff.2 ⟨by decide, fun _ wrapper operand => ?_⟩
  obtain rfl := List.mem_singleton.1 operand
  refine staysWithin_iff.2 ⟨by decide, fun _ name operand => ?_⟩
  obtain rfl := List.mem_singleton.1 operand
  exact staysWithin_iff.2 ⟨by decide, fun _ _ operand => by cases operand⟩

end Sample

open Sample in
/-- One level further down the name in the access is cut off, and the style with it. -/
theorem depth_limit_only_loses_names_sample :
    StaysWithin 98 coveredAccess ∧ lowerAt 98 coveredAccess = lowerFully coveredAccess ∧
    styleNames .empty (lowerAt 98 coveredAccess) = ["box"] ∧
    styleNames .empty (lowerAt 99 coveredAccess) = [] ∧
    styleNames .empty (lowerAt 99 coveredAccess) ⊆ styleNames .empty (lowerAt 98 coveredAccess) := by
  obtain ⟨-, unlimited, -, loses⟩ := depth_limit_only_loses_names coveredAccess 98
  exact ⟨staysWithin_coveredAccess, (unlimited staysWithin_coveredAccess).1, by decide, by decide,
    loses 99 (by decide) .empty⟩

end StyleAudit
