import StyleAudit.Lowering
import Mathlib.Logic.Relation

/-!
# What stands in a term

`Term.parts` lists the terms that stand directly in a term. In a lowered term they are children lowered in
turn, children that were not looked into, and places left empty; between an object and its values stand
the properties (`brought_of_mem_parts`). The expressions of a site come from lowering in the same way.
-/

namespace StyleAudit

open Syntax

/-! ## Parts -/

/-- The terms that stand directly in a term, a place left empty included. -/
def Term.parts : Term → List Term
  | .member base _ _ => [base]
  | .spread argument _ => [argument]
  | .array elements _ => elements
  | .property _ value _ => [value]
  | .object entries _ => entries
  | .conditional test consequent alternate _ => [test, consequent, alternate]
  | .logical _ left right _ => [left, right]
  | .binary _ left right _ => [left, right]
  | .unary _ argument _ => [argument]
  | .update _ argument _ => [argument]
  | .call callee arguments _ => callee :: arguments
  | .binding target init _ => [target, init]
  | .attr _ value _ => [value]
  | .returned argument _ => [argument]
  | .assignment _ target value _ => [target, value]
  | .absent | .other .. | .identifier .. | .objectPattern .. => []

def Term.HasPart (t u : Term) : Prop := u ∈ t.parts

/-- The second term is the first one or stands somewhere in it. -/
def Term.Holds : Term → Term → Prop := Relation.ReflTransGen Term.HasPart

theorem forall_holds_iff {p : Term → Prop} {t : Term} :
    (∀ u, t.Holds u → p u) ↔ p t ∧ ∀ u ∈ t.parts, ∀ v, u.Holds v → p v := by
  constructor
  · exact fun everywhere => ⟨everywhere t .refl,
      fun u part v inside => everywhere v (.head part inside)⟩
  · rintro ⟨here, below⟩ u inside
    rcases Relation.ReflTransGen.cases_head inside with rfl | ⟨v, part, rest⟩
    · exact here
    · exact below v part u rest

/-! ## Parts of lowered terms -/

/-- What lowering puts in the place of a child. -/
inductive Brought (lower : Node → Term) : Term → Prop
  | absent : Brought lower .absent
  | lowered (child : Node) : Brought lower (lower child)
  | unexamined (child : Node) : Brought lower (unexamined child)

/-- A property with what lowering puts in the place of its value. -/
inductive BroughtProperty (lower : Node → Term) : Term → Prop
  | intro (key : Option Node) (item : Node) {value : Term} (brought : Brought lower value) :
      BroughtProperty lower (.property (key.bind staticKey) value item.location)

section

variable {lower : Node → Term} {n : Node} {t u : Term}

theorem brought_lowerChild (child : Option Node) : Brought lower (lowerChild lower child) := by
  cases child with
  | none => exact .absent
  | some child => exact .lowered child

theorem exists_of_mem_lowerArguments (member : u ∈ lowerArguments lower n) : ∃ child, u = lower child := by
  unfold lowerArguments at member
  split at member
  · split at member
    · obtain ⟨child, -, rfl⟩ := List.mem_map.1 member
      exact ⟨child, rfl⟩
    · cases member
  · cases member

theorem lowerItem?_cases {item : Node} (lowered : lowerItem? lower item = some u) :
    (item.kind = "spread_element" ∧ u = lower item) ∨ BroughtProperty lower u := by
  unfold lowerItem? at lowered
  split at lowered
  · cases lowered
    exact .inr (.intro _ item (brought_lowerChild _))
  · cases lowered
    exact .inr (.intro (some item) item (.lowered item))
  · cases lowered
    exact .inr (.intro _ item (.unexamined item))
  · rename_i kind
    exact .inl ⟨kind, (Option.some.inj lowered).symm⟩
  · cases lowered

theorem brought_of_mem_parts (part : u ∈ (lowerNode lower n).parts) :
    (∃ inner, lowerNode lower n = lower inner) ∨ Brought lower u ∨
      BroughtProperty lower u ∧ ∃ entries loc, lowerNode lower n = .object entries loc := by
  have filling : ∀ children : List (Option Node), u ∈ children.map (lowerChild lower) →
      Brought lower u := by
    intro children member
    obtain ⟨child, -, rfl⟩ := List.mem_map.1 member
    exact brought_lowerChild child
  unfold lowerNode at part ⊢
  cases form : Form.ofKind n.kind <;> simp only [form] at part ⊢
  case wrapper =>
    cases inside : n.parts.head? with
    | none => simp [inside, unexamined, Term.parts] at part
    | some inner => exact .inl ⟨inner, rfl⟩
  case name => cases part
  case member | subscript =>
    cases base : n.child? "object" with
    | none => simp [base, unexamined, Term.parts] at part
    | some object =>
        simp only [base, Term.parts, List.mem_singleton] at part
        exact .inr (.inl (part ▸ .lowered object))
  case array =>
    obtain ⟨child, -, rfl⟩ := List.mem_map.1 part
    exact .inr (.inl (.lowered child))
  case spread => exact .inr (.inl (filling [n.parts.head?] part))
  case object =>
    obtain ⟨item, -, lowered⟩ := List.mem_filterMap.1 part
    rcases lowerItem?_cases lowered with ⟨-, rfl⟩ | property
    · exact .inr (.inl (.lowered item))
    · exact .inr (.inr ⟨property, _, _, rfl⟩)
  case conditional =>
    exact .inr (.inl (filling
      [n.child? "condition", n.child? "consequence", n.child? "alternative"] part))
  case binary =>
    have operand : u ∈ [n.child? "left", n.child? "right"].map (lowerChild lower) := by
      split at part <;> exact part
    exact .inr (.inl (filling _ operand))
  case unary | update => exact .inr (.inl (filling [n.child? "argument"] part))
  case call =>
    rcases List.mem_cons.1 part with rfl | argument
    · exact .inr (.inl (brought_lowerChild _))
    · obtain ⟨child, rfl⟩ := exists_of_mem_lowerArguments argument
      exact .inr (.inl (.lowered child))
  case other => cases part

end

/-! ## Expressions of sites -/

namespace Site

/-- The expressions of a site. -/
def expressions : Site → List Term
  | .binding _ init _ => [init]
  | .attr _ value _ => [value]
  | .returned argument _ => [argument]
  | .assignment _ target value _ => [target, value]

def loc : Site → Location
  | .binding _ _ loc => loc
  | .attr _ _ loc => loc
  | .returned _ loc => loc
  | .assignment _ _ _ loc => loc

end Site

theorem exists_of_mem_expressions {n : Node} {s : Site} {t : Term} (lowered : lowerSite? n = some s)
    (member : t ∈ s.expressions) : ∃ child, t = lowerChild lowerExpression child := by
  unfold lowerSite? at lowered
  split at lowered
  · cases lowered
    exact ⟨_, List.mem_singleton.1 member⟩
  · cases lowered
    exact ⟨_, List.mem_singleton.1 member⟩
  · cases lowered
    exact ⟨_, List.mem_singleton.1 member⟩
  · cases lowered
    rcases List.mem_cons.1 member with rfl | value
    · exact ⟨_, rfl⟩
    · exact ⟨_, List.mem_singleton.1 value⟩
  · cases lowered

end StyleAudit
