import StyleAudit.Proofs.Flow

/-!
# What the names of a term depend on

A term refers to a style by an access in its flow, or because it hands on a container that has the style.
Only the second way depends on the containers that are known, and only on those that the term hands on.
So the names grow with these containers, and no other container matters.
-/

namespace StyleAudit

open Term

/-- The container is among the values that the term may have. -/
def Term.HandsOn (t : Term) (container : String) : Prop :=
  ∃ loc, t.Flows (.identifier container loc)

variable {containers others : Containers} {t : Term} {x : String}

theorem mem_styleNames_iff_accesses_or_handsOn :
    x ∈ styleNames containers t ↔
      (∃ object place loc, x ≠ "" ∧ t.Flows (.member (.identifier object place) (some x) loc)) ∨
      ∃ container, t.HandsOn container ∧ x ∈ containers.members container := by
  rw [mem_styleNames_iff_access_or_container]
  refine or_congr_right ?_
  constructor
  · rintro ⟨container, members, loc, known, member, flow⟩
    exact ⟨container, ⟨loc, flow⟩, mem_members.2 ⟨members, known, member⟩⟩
  · rintro ⟨container, ⟨loc, flow⟩, member⟩
    obtain ⟨members, known, member⟩ := mem_members.1 member
    exact ⟨container, members, loc, known, member, flow⟩

theorem mem_styleNames_empty_iff :
    x ∈ styleNames .empty t ↔
      ∃ object place loc, x ≠ "" ∧ t.Flows (.member (.identifier object place) (some x) loc) := by
  rw [mem_styleNames_iff_accesses_or_handsOn]
  refine or_iff_left ?_
  rintro ⟨container, -, member⟩
  obtain ⟨members, known, -⟩ := mem_members.1 member
  cases known

theorem mem_styleNames_iff_empty_or_handsOn :
    x ∈ styleNames containers t ↔ x ∈ styleNames .empty t ∨
      ∃ container, t.HandsOn container ∧ x ∈ containers.members container := by
  rw [mem_styleNames_iff_accesses_or_handsOn, mem_styleNames_empty_iff]

theorem styleNames_subset_of_members_subset
    (grows : ∀ container, t.HandsOn container →
      containers.members container ⊆ others.members container) :
    styleNames containers t ⊆ styleNames others t := by
  intro x named
  rw [mem_styleNames_iff_empty_or_handsOn] at named ⊢
  refine named.imp_right ?_
  rintro ⟨container, handed, member⟩
  exact ⟨container, handed, grows container handed member⟩

theorem styleNames_subset_of_get?_eq
    (same : ∀ container, t.HandsOn container → containers.get? container = others.get? container) :
    styleNames containers t ⊆ styleNames others t := by
  refine styleNames_subset_of_members_subset fun container handed => ?_
  rw [Containers.members, same container handed, Containers.members]
  exact List.Subset.refl _

theorem style_names_exactly (t : Term) (containers : Containers) :
    (∀ x, x ∈ styleNames containers t ↔ ∃ u, t.Flows u ∧ Mentions containers u x) ∧
    (∀ x, x ∈ styleNames containers t ↔ x ∈ styleNames .empty t ∨
      ∃ container, t.HandsOn container ∧ x ∈ containers.members container) ∧
    (∀ others : Containers,
      (∀ container, t.HandsOn container →
        containers.members container ⊆ others.members container) →
      styleNames containers t ⊆ styleNames others t) ∧
    (∀ others : Containers,
      (∀ container, t.HandsOn container → containers.get? container = others.get? container) →
      ∀ x, x ∈ styleNames containers t ↔ x ∈ styleNames others t) := by
  refine ⟨fun x => mem_styleNames_iff, fun x => mem_styleNames_iff_empty_or_handsOn,
    fun others => styleNames_subset_of_members_subset, fun others same x => ?_⟩
  constructor
  · exact fun named => styleNames_subset_of_get?_eq same named
  · exact fun named => styleNames_subset_of_get?_eq (fun container handed => (same container handed).symm)
      named

namespace Sample

/-- The term of `[s, t.box, f(u)]`. -/
def handedList : Term :=
  .array [.identifier "s" ⟨1, 2⟩, .member (.identifier "t" ⟨1, 5⟩) (some "box") ⟨1, 5⟩,
    .call (.identifier "f" ⟨1, 12⟩) [.identifier "u" ⟨1, 14⟩] ⟨1, 12⟩] ⟨1, 1⟩

def knownContainers : Containers :=
  ((Registry.empty.put "s" (.ofList ["text"])).put "t" (.ofList ["bar"])).put "u" (.ofList ["foo"])

def onlyHanded : Containers := Registry.empty.put "s" (.ofList ["text"])

theorem handsOn_handedList {container : String} (handed : handedList.HandsOn container) :
    container = "s" := by
  obtain ⟨loc, flow⟩ := handed
  rcases Relation.ReflTransGen.cases_head flow with equal | ⟨u, step, rest⟩
  · cases equal
  · cases step with
    | element member =>
        simp only [List.mem_cons, List.not_mem_nil, or_false] at member
        rcases member with rfl | rfl | rfl <;>
          rcases Relation.ReflTransGen.cases_head rest with equal | ⟨v, step, -⟩
        · exact (Term.identifier.inj equal).1.symm
        all_goals first | cases equal | cases step

end Sample

open Sample in
/-- The containers `t` and `u` do not matter to a list that hands on only `s`. -/
theorem style_names_exactly_sample :
    styleNames knownContainers handedList = ["text", "box"] ∧
    (∀ container, handedList.HandsOn container →
      knownContainers.get? container = onlyHanded.get? container) ∧
    ∀ x, x ∈ styleNames knownContainers handedList ↔ x ∈ styleNames onlyHanded handedList := by
  have same : ∀ container, handedList.HandsOn container →
      knownContainers.get? container = onlyHanded.get? container := by
    intro container handed
    rw [handsOn_handedList handed]
    simp [knownContainers, onlyHanded, Registry.get?_put]
  exact ⟨by decide, same, (style_names_exactly handedList knownContainers).2.2.2 onlyHanded same⟩

end StyleAudit
