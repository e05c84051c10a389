import StyleAudit.Proofs.Calls
import StyleAudit.Proofs.Flow
import StyleAudit.Proofs.Parts

/-!
# How deep terms and their extraction nest

The extraction of names from a term calls itself on the terms that the value may come from, so its calls
nest along the chains of `Term.FlowStep`: with room for a number of calls one inside the other it gets by
exactly if no chain is longer (`styleNamesWithin_eq_some_iff`). Lowering with a budget bounds these chains,
and those of parts, whatever the tree. A level of lowering adds one call, but up to two constructors,
since the properties of an object take one and are passed over by the calls.
-/

namespace StyleAudit

open Syntax

/-! ## Chains -/

section

variable {α : Type} {R : α → α → Prop} {bound larger : Nat} {a b : α}

/-- A chain that starts with `a`, each member related to the next, has at most `bound` members. -/
def ChainsWithin (R : α → α → Prop) (bound : Nat) (a : α) : Prop :=
  ∀ later : List α, (a :: later).IsChain R → (a :: later).length ≤ bound

theorem not_chainsWithin_zero : ¬ ChainsWithin R 0 a := fun within =>
  absurd (within [] (.singleton a)) (by simp)

theorem chainsWithin_succ_iff :
    ChainsWithin R (bound + 1) a ↔ ∀ b, R a b → ChainsWithin R bound b := by
  constructor
  · intro within b step later chain
    exact Nat.le_of_succ_le_succ (within (b :: later) (.cons_cons step chain))
  · intro within later chain
    cases later with
    | nil => simp
    | cons b later =>
        obtain ⟨step, rest⟩ := List.isChain_cons_cons.1 chain
        exact Nat.succ_le_succ (within b step later rest)

theorem ChainsWithin.mono (within : ChainsWithin R bound a) (more : bound ≤ larger) :
    ChainsWithin R larger a :=
  fun later chain => Nat.le_trans (within later chain) more

theorem ChainsWithin.of_step (within : ChainsWithin R bound a) (step : R a b) :
    ChainsWithin R bound b := by
  cases bound with
  | zero => exact absurd within not_chainsWithin_zero
  | succ bound => exact (chainsWithin_succ_iff.1 within b step).mono (Nat.le_succ _)

/-- Where nothing follows, a chain has one member, and so no more than any chain elsewhere may have. -/
theorem ChainsWithin.of_last (within : ChainsWithin R bound a) (last : ∀ c, ¬ R b c) :
    ChainsWithin R bound b := by
  cases bound with
  | zero => exact absurd within not_chainsWithin_zero
  | succ bound => exact chainsWithin_succ_iff.2 fun c step => absurd step (last c)

end

/-! ## Extraction with limited room -/

section

variable {containers : Containers} {t u : Term}

/-- The names that a term has by itself. -/
def ownNames (containers : Containers) : Term → List String
  | .member base name _ => accessedName base name
  | .identifier name _ => containers.members name
  | _ => []

/-- The terms whose names the extraction asks for, in this order. -/
def Term.asked : Term → List Term
  | .array elements _ => elements
  | .spread argument _ => [argument]
  | .conditional test consequent alternate _ => [consequent, alternate, test]
  | .object entries _ => entries.filterMap entryValue?
  | .property _ value _ => [value]
  | .logical _ left right _ => [left, right]
  | .binary _ left right _ => [left, right]
  | .unary _ argument _ => [argument]
  | .update _ argument _ => [argument]
  | _ => []

theorem mem_asked_iff : u ∈ t.asked ↔ t.FlowStep u := by
  constructor
  · intro asked
    cases t with
    | array elements loc => exact .element asked
    | object entries loc =>
        obtain ⟨e, member, value⟩ := List.mem_filterMap.1 asked
        exact .entry member value
    | spread | property | unary | update =>
        rw [List.mem_singleton.1 asked]
        constructor
    | conditional | logical | binary =>
        simp only [Term.asked, List.mem_cons, List.not_mem_nil, or_false] at asked
        rcases asked with rfl | rfl | rfl <;> constructor
    | _ => exact absurd asked List.not_mem_nil
  · intro step
    cases step with
    | element member => exact member
    | entry member value => exact List.mem_filterMap.2 ⟨_, member, value⟩
    | _ => simp [Term.asked]

theorem styleNames_eq (containers : Containers) (t : Term) :
    styleNames containers t = ownNames containers t ++ t.asked.flatMap (styleNames containers) := by
  cases t <;> simp [styleNames, ownNames, Term.asked, styleNamesOfAll_eq, styleNamesOfEntries_eq]

/-- The extraction of names with room for `limit` calls one inside the other; it fails when it needs
more. -/
def styleNamesWithin (containers : Containers) : Nat → Term → Option (List String)
  | 0, _ => none
  | limit + 1, t => do
    let found ← t.asked.mapM (styleNamesWithin containers limit)
    return ownNames containers t ++ found.flatten

theorem mapM_eq_some_iff {α β : Type} {f : α → Option β} {p : α → Prop} {g : α → β}
    (each : ∀ a b, f a = some b ↔ p a ∧ b = g a) {l : List α} {found : List β} :
    l.mapM f = some found ↔ (∀ a ∈ l, p a) ∧ found = l.map g := by
  induction l generalizing found with
  | nil => simp [eq_comm]
  | cons a l ih =>
      simp only [List.mapM_cons, Option.bind_eq_bind, Option.bind_eq_some_iff, each, ih,
        List.forall_mem_cons, List.map_cons]
      constructor
      · rintro ⟨b, ⟨here, rfl⟩, rest, ⟨later, rfl⟩, ⟨⟩⟩
        exact ⟨⟨here, later⟩, rfl⟩
      · rintro ⟨⟨here, later⟩, rfl⟩
        exact ⟨g a, ⟨here, rfl⟩, l.map g, ⟨later, rfl⟩, rfl⟩

/-- The extraction gets by with the room exactly if no chain of calls is longer, and then it finds
the same names. -/
theorem styleNamesWithin_eq_some_iff {limit : Nat} {names : List String} :
    styleNamesWithin containers limit t = some names ↔
      ChainsWithin Term.FlowStep limit t ∧ names = styleNames containers t := by
  induction limit generalizing t names with
  | zero => simp [styleNamesWithin, not_chainsWithin_zero]
  | succ limit ih =>
      have asked {found : List (List String)} :
          t.asked.mapM (styleNamesWithin containers limit) = some found ↔
            (∀ u ∈ t.asked, ChainsWithin Term.FlowStep limit u) ∧
              found = t.asked.map (styleNames containers) :=
        mapM_eq_some_iff fun _ _ => ih
      rw [chainsWithin_succ_iff, styleNames_eq]
      simp only [styleNamesWithin, Option.bind_eq_bind, Option.bind_eq_some_iff, asked, mem_asked_iff]
      constructor
      · rintro ⟨found, ⟨chains, rfl⟩, ⟨⟩⟩
        exact ⟨chains, rfl⟩
      · rintro ⟨chains, rfl⟩
        exact ⟨_, ⟨chains, rfl⟩, rfl⟩

end

/-! ## Lowered terms -/

section

variable {lower : Node → Term} {bound : Nat} {t u : Term}

theorem flowStep_cases (step : t.FlowStep u) :
    (t.HasPart u ∧ ∀ entries loc, t ≠ .object entries loc) ∨
      ∃ e, t.HasPart e ∧ e.entryValue? = some u := by
  cases step with
  | entry member value => exact .inr ⟨_, member, value⟩
  | element member => exact .inl ⟨member, by simp⟩
  | _ => exact .inl ⟨by simp [Term.HasPart, Term.parts], by simp⟩

theorem flowStep_of_entryValue? {e : Term} (value : e.entryValue? = some u) : e.FlowStep u := by
  cases e <;> cases value <;> constructor

/-- What is brought in has no longer chains than what is lowered, since nothing follows the rest. -/
theorem Brought.chainsWithin {R : Term → Term → Prop} (afterAbsent : ∀ u, ¬ R .absent u)
    (afterOther : ∀ kind loc u, ¬ R (.other kind loc) u)
    (below : ∀ child, ChainsWithin R bound (lower child)) (brought : Brought lower t) :
    ChainsWithin R bound t := by
  cases brought with
  | absent => exact (below default).of_last afterAbsent
  | lowered child => exact below child
  | unexamined child => exact (below default).of_last (afterOther _ _)

theorem not_flowStep_absent (u : Term) : ¬ Term.FlowStep .absent u := by
  rintro ⟨⟩

theorem not_flowStep_other (kind : String) (loc : Location) (u : Term) :
    ¬ Term.FlowStep (.other kind loc) u := by
  rintro ⟨⟩

theorem chainsWithin_flowStep_lowerNode
    (below : ∀ child, ChainsWithin Term.FlowStep bound (lower child)) (n : Node) :
    ChainsWithin Term.FlowStep (bound + 1) (lowerNode lower n) := by
  have brought {v : Term} : Brought lower v → ChainsWithin Term.FlowStep bound v :=
    Brought.chainsWithin not_flowStep_absent not_flowStep_other below
  refine chainsWithin_succ_iff.2 fun u step => ?_
  rcases flowStep_cases step with ⟨part, plain⟩ | ⟨e, part, value⟩
  · rcases brought_of_mem_parts part with ⟨inner, same⟩ | whole | ⟨-, entries, loc, object⟩
    · exact (below inner).of_step (same ▸ step)
    · exact brought whole
    · exact absurd object (plain entries loc)
  · -- The call passes over the entry: the value of a property comes from the level below, and the
    -- argument of a spread from the one below that.
    rcases brought_of_mem_parts part with ⟨inner, same⟩ | whole | ⟨property, -⟩
    · exact (below inner).of_step (same ▸ step)
    · exact (brought whole).of_step (flowStep_of_entryValue? value)
    · cases property with
      | intro key item whole =>
          cases value
          exact brought whole

theorem chainsWithin_parts_lowerNode (below : ∀ child, ChainsWithin Term.HasPart bound (lower child))
    (n : Node) : ChainsWithin Term.HasPart (bound + 2) (lowerNode lower n) := by
  have brought {v : Term} : Brought lower v → ChainsWithin Term.HasPart bound v :=
    Brought.chainsWithin (fun _ => List.not_mem_nil) (fun _ _ _ => List.not_mem_nil) below
  refine chainsWithin_succ_iff.2 fun u part => ?_
  rcases brought_of_mem_parts part with ⟨inner, same⟩ | whole | ⟨property, -⟩
  · exact ((below inner).of_step (same ▸ part)).mono (Nat.le_succ _)
  · exact (brought whole).mono (Nat.le_succ _)
  · cases property with
    | intro key item whole =>
        refine chainsWithin_succ_iff.2 fun v member => ?_
        rw [List.mem_singleton.1 member]
        exact brought whole

end

/-- If a level of lowering adds no more than `cost` to the chains, then no more than `cost` for each
level of the budget is added. -/
theorem chainsWithin_lowerWithin {R : Term → Term → Prop} {cost : Nat}
    (afterOther : ∀ kind loc u, ¬ R (.other kind loc) u)
    (level : ∀ {lower : Node → Term} {bound : Nat}, (∀ child, ChainsWithin R bound (lower child)) →
      ∀ n, ChainsWithin R (bound + cost) (lowerNode lower n)) (budget : Nat) (n : Node) :
    ChainsWithin R (cost * budget + 1) (lowerWithin budget n) := by
  have cut (n : Node) : ChainsWithin R 1 (unexamined n) :=
    chainsWithin_succ_iff.2 fun _ step => absurd step (afterOther _ _ _)
  induction budget generalizing n with
  | zero => exact cut n
  | succ budget ih =>
      rw [lowerWithin]
      split
      · exact (cut n).mono (Nat.le_add_left _ _)
      · exact (level ih n).mono (by rw [Nat.mul_succ]; omega)

theorem chainsWithin_flowStep_lowerAt {depth : Int} (within : depth ≤ 101) (n : Node) :
    ChainsWithin Term.FlowStep (102 - depth).toNat (lowerAt depth n) := by
  have chains := chainsWithin_lowerWithin not_flowStep_other chainsWithin_flowStep_lowerNode
    (budgetAt depth) n
  refine chains.mono ?_
  unfold budgetAt deepestLevel
  omega

theorem chainsWithin_parts_lowerAt {depth : Int} (within : depth ≤ 101) (n : Node) :
    ChainsWithin Term.HasPart (2 * (101 - depth) + 1).toNat (lowerAt depth n) := by
  have chains := chainsWithin_lowerWithin (fun _ _ _ => List.not_mem_nil) chainsWithin_parts_lowerNode
    (budgetAt depth) n
  refine chains.mono ?_
  unfold budgetAt deepestLevel
  omega

theorem chainsWithin_flowStep_of_site {n : Node} {s : Site} {t : Term} (lowered : lowerSite? n = some s)
    (member : t ∈ s.expressions) : ChainsWithin Term.FlowStep 102 t := by
  have calls (child : Node) : ChainsWithin Term.FlowStep 102 (lowerExpression child) :=
    chainsWithin_flowStep_lowerAt (by decide) child
  obtain ⟨child, rfl⟩ := exists_of_mem_expressions lowered member
  cases child with
  | none => exact (calls n).of_last not_flowStep_absent
  | some child => exact calls child

theorem nesting_bounded_by_depth :
    (∀ containers t, styleNames containers t =
      ownNames containers t ++ t.asked.flatMap (styleNames containers)) ∧
    (∀ containers limit t names, styleNamesWithin containers limit t = some names ↔
      ChainsWithin Term.FlowStep limit t ∧ names = styleNames containers t) ∧
    (∀ (depth : Int) (n : Node), depth ≤ 101 →
      ChainsWithin Term.FlowStep (102 - depth).toNat (lowerAt depth n) ∧
      (∀ containers, styleNamesWithin containers (102 - depth).toNat (lowerAt depth n) =
        some (styleNames containers (lowerAt depth n))) ∧
      ChainsWithin Term.HasPart (2 * (101 - depth) + 1).toNat (lowerAt depth n)) ∧
    ∀ root, ∀ s ∈ sitesOf root, ∀ t ∈ s.expressions, ChainsWithin Term.FlowStep 102 t ∧
      ∀ containers, styleNamesWithin containers 102 t = some (styleNames containers t) := by
  refine ⟨styleNames_eq, fun _ _ _ _ => styleNamesWithin_eq_some_iff, fun depth n within => ?_,
    fun root s site t member => ?_⟩
  · have calls := chainsWithin_flowStep_lowerAt within n
    exact ⟨calls, fun _ => styleNamesWithin_eq_some_iff.2 ⟨calls, rfl⟩,
      chainsWithin_parts_lowerAt within n⟩
  · rw [sitesOf_eq] at site
    obtain ⟨n, -, lowered⟩ := List.mem_filterMap.1 site
    have calls := chainsWithin_flowStep_of_site lowered member
    exact ⟨calls, fun _ => styleNamesWithin_eq_some_iff.2 ⟨calls, rfl⟩⟩

namespace Sample

/-- The tree of `{ a: { b: c } }`. -/
def nestedObjects : Node :=
  tree "object" [tree "pair" [
    (word "property_identifier" [0x61]).filling "key",
    (tree "object" [tree "pair" [
      (word "property_identifier" [0x62]).filling "key",
      (word "identifier" [0x63]).filling "value"]]).filling "value"]]

def innerObject : Term :=
  .object [.property (some "b") (.other "identifier" ⟨1, 1⟩) ⟨1, 1⟩] ⟨1, 1⟩

def outerObject : Term := .object [.property (some "a") innerObject ⟨1, 1⟩] ⟨1, 1⟩

end Sample

open Sample in
/-- Objects reach both bounds: two levels above the limit they take three calls and five constructors. -/
theorem nesting_bounded_by_depth_sample :
    (99 : Int) ≤ 101 ∧ lowerAt 99 nestedObjects = outerObject ∧
    ChainsWithin Term.FlowStep 3 outerObject ∧ ¬ ChainsWithin Term.FlowStep 2 outerObject ∧
    ChainsWithin Term.HasPart 5 outerObject ∧ ¬ ChainsWithin Term.HasPart 4 outerObject := by
  have lowered : lowerAt 99 nestedObjects = outerObject := by rfl
  obtain ⟨calls, -, parts⟩ := nesting_bounded_by_depth.2.2.1 99 nestedObjects (by decide)
  rw [lowered] at calls parts
  refine ⟨by decide, lowered, calls, fun within => ?_, parts, fun within => ?_⟩
  · have chain : [outerObject, innerObject, .other "identifier" ⟨1, 1⟩].IsChain Term.FlowStep := by
      simp [List.isChain_cons_cons, ← mem_asked_iff, Term.asked, outerObject, innerObject,
        Term.entryValue?]
    exact absurd (within _ chain) (by decide)
  · have chain : [outerObject, .property (some "a") innerObject ⟨1, 1⟩, innerObject,
        .property (some "b") (.other "identifier" ⟨1, 1⟩) ⟨1, 1⟩,
        .other "identifier" ⟨1, 1⟩].IsChain Term.HasPart := by
      simp [List.isChain_cons_cons, Term.HasPart, Term.parts, outerObject, innerObject]
    exact absurd (within _ chain) (by decide)

end StyleAudit
