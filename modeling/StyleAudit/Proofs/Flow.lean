import StyleAudit.StyleNames
import Mathlib.Logic.Relation

/-!
# Where the style names of a term come from

`Term.FlowStep` says from which parts of a term its value may come. The names that `styleNames`
collects are those that a term reached by such steps mentions: a member of a plain name, or a style of
a container handed on as a whole.
-/

namespace StyleAudit

namespace Term

/-- The value that an entry of an object brings in; terms that are neither properties nor spreads
bring in none. -/
def entryValue? : Term → Option Term
  | .property _ value _ => some value
  | .spread argument _ => some argument
  | _ => none

/-- The value of the first term may be the value of the second, one of its parts. -/
inductive FlowStep : Term → Term → Prop
  | element {elements : List Term} {t loc} (member : t ∈ elements) :
      FlowStep (.array elements loc) t
  | spread {argument loc} : FlowStep (.spread argument loc) argument
  | test {test consequent alternate loc} :
      FlowStep (.conditional test consequent alternate loc) test
  | consequent {test consequent alternate loc} :
      FlowStep (.conditional test consequent alternate loc) consequent
  | alternate {test consequent alternate loc} :
      FlowStep (.conditional test consequent alternate loc) alternate
  | value {key value loc} : FlowStep (.property key value loc) value
  | entry {entries : List Term} {e u loc} (member : e ∈ entries) (value : e.entryValue? = some u) :
      FlowStep (.object entries loc) u
  | logicalLeft {operator left right loc} : FlowStep (.logical operator left right loc) left
  | logicalRight {operator left right loc} : FlowStep (.logical operator left right loc) right
  | binaryLeft {operator left right loc} : FlowStep (.binary operator left right loc) left
  | binaryRight {operator left right loc} : FlowStep (.binary operator left right loc) right
  | unary {operator argument loc} : FlowStep (.unary operator argument loc) argument
  | update {operator argument loc} : FlowStep (.update operator argument loc) argument

def Flows : Term → Term → Prop := Relation.ReflTransGen FlowStep

/-- The style names that a term stands for by itself. -/
inductive Mentions (containers : Containers) : Term → String → Prop
  | access {object member place loc} (filled : member ≠ "") :
      Mentions containers (.member (.identifier object place) (some member) loc) member
  | container {container members name loc} (known : containers.get? container = some members)
      (member : name ∈ members) : Mentions containers (.identifier container loc) name

theorem sizeOf_entryValue {e u : Term} (value : e.entryValue? = some u) : sizeOf u < sizeOf e := by
  cases e with
  | property key v loc =>
      obtain rfl : v = u := by simpa [entryValue?] using value
      simp only [property.sizeOf_spec]
      omega
  | spread argument loc =>
      obtain rfl : argument = u := by simpa [entryValue?] using value
      simp only [spread.sizeOf_spec]
      omega
  | _ => simp [entryValue?] at value

theorem FlowStep.sizeOf_lt {t u : Term} (step : FlowStep t u) : sizeOf u < sizeOf t := by
  cases step with
  | element member =>
      have smaller := List.sizeOf_lt_of_mem member
      simp only [array.sizeOf_spec]
      omega
  | entry member value =>
      have smaller := List.sizeOf_lt_of_mem member
      have inner := sizeOf_entryValue value
      simp only [object.sizeOf_spec]
      omega
  | _ =>
      simp only [spread.sizeOf_spec, conditional.sizeOf_spec, property.sizeOf_spec,
        logical.sizeOf_spec, binary.sizeOf_spec, unary.sizeOf_spec, update.sizeOf_spec]
      omega

end Term

open Term

variable {containers : Containers} {x : String}

/-! ## One step -/

theorem mem_members {container : String} :
    x ∈ containers.members container ↔
      ∃ members, containers.get? container = some members ∧ x ∈ members := by
  unfold Containers.members
  cases containers.get? container <;> simp

theorem mem_accessedName {object : Term} {member : Option String} {loc : Syntax.Location} :
    x ∈ accessedName object member ↔ Mentions containers (.member object member loc) x := by
  constructor
  · intro named
    unfold accessedName at named
    split at named
    · split at named
      · cases named
      · rename_i filled
        rw [List.mem_singleton.1 named]
        exact .access (by simpa using filled)
    · cases named
  · rintro ⟨filled⟩
    simp [accessedName, filled]

theorem styleNamesOfAll_eq (terms : List Term) :
    styleNamesOfAll containers terms = terms.flatMap (styleNames containers) := by
  induction terms with
  | nil => rfl
  | cons t rest ih => rw [styleNamesOfAll, ih, List.flatMap_cons]

theorem styleNamesOfEntries_eq (entries : List Term) :
    styleNamesOfEntries containers entries =
      (entries.filterMap entryValue?).flatMap (styleNames containers) := by
  induction entries with
  | nil => rfl
  | cons first rest ih => cases first <;> simp [styleNamesOfEntries, entryValue?, List.filterMap_cons, ih]

theorem Term.FlowStep.mem_styleNames {t u : Term} (step : FlowStep t u)
    (named : x ∈ styleNames containers u) : x ∈ styleNames containers t := by
  cases step with
  | element member =>
      rw [styleNames, styleNamesOfAll_eq]
      exact List.mem_flatMap.2 ⟨u, member, named⟩
  | entry member value =>
      rw [styleNames, styleNamesOfEntries_eq]
      exact List.mem_flatMap.2 ⟨u, List.mem_filterMap.2 ⟨_, member, value⟩, named⟩
  | _ => simp [styleNames, named]

theorem Term.Mentions.mem_styleNames {t : Term} (mention : Mentions containers t x) :
    x ∈ styleNames containers t := by
  cases mention with
  | access filled => simp [styleNames, accessedName, filled]
  | container known member =>
      rw [styleNames]
      exact mem_members.2 ⟨_, known, member⟩

theorem mem_styleNames_step {t : Term} (named : x ∈ styleNames containers t) :
    Mentions containers t x ∨ ∃ u, FlowStep t u ∧ x ∈ styleNames containers u := by
  cases t with
  | member object member loc =>
      rw [styleNames] at named
      exact .inl (mem_accessedName.1 named)
  | array elements loc =>
      rw [styleNames, styleNamesOfAll_eq] at named
      obtain ⟨u, member, inner⟩ := List.mem_flatMap.1 named
      exact .inr ⟨u, .element member, inner⟩
  | spread argument loc => exact .inr ⟨argument, .spread, by simpa [styleNames] using named⟩
  | conditional test consequent alternate loc =>
      rw [styleNames, List.mem_append, List.mem_append] at named
      rcases named with (inner | inner) | inner
      · exact .inr ⟨consequent, .consequent, inner⟩
      · exact .inr ⟨alternate, .alternate, inner⟩
      · exact .inr ⟨test, .test, inner⟩
  | identifier name loc =>
      rw [styleNames] at named
      obtain ⟨members, known, member⟩ := mem_members.1 named
      exact .inl (.container known member)
  | object entries loc =>
      rw [styleNames, styleNamesOfEntries_eq] at named
      obtain ⟨u, brought, inner⟩ := List.mem_flatMap.1 named
      obtain ⟨e, member, value⟩ := List.mem_filterMap.1 brought
      exact .inr ⟨u, .entry member value, inner⟩
  | property key value loc => exact .inr ⟨value, .value, by simpa [styleNames] using named⟩
  | logical operator left right loc =>
      rw [styleNames, List.mem_append] at named
      rcases named with inner | inner
      · exact .inr ⟨left, .logicalLeft, inner⟩
      · exact .inr ⟨right, .logicalRight, inner⟩
  | binary operator left right loc =>
      rw [styleNames, List.mem_append] at named
      rcases named with inner | inner
      · exact .inr ⟨left, .binaryLeft, inner⟩
      · exact .inr ⟨right, .binaryRight, inner⟩
  | unary operator argument loc => exact .inr ⟨argument, .unary, by simpa [styleNames] using named⟩
  | update operator argument loc => exact .inr ⟨argument, .update, by simpa [styleNames] using named⟩
  | _ => simp [styleNames] at named

/-! ## Whole paths -/

theorem Term.Flows.mem_styleNames {t u : Term} (flow : t.Flows u)
    (named : x ∈ styleNames containers u) : x ∈ styleNames containers t := by
  induction flow using Relation.ReflTransGen.head_induction_on with
  | refl => exact named
  | head step _ ih => exact step.mem_styleNames ih

theorem flows_of_mem_styleNames {t : Term} (named : x ∈ styleNames containers t) :
    ∃ u, t.Flows u ∧ Mentions containers u x := by
  rcases mem_styleNames_step named with mention | ⟨u, step, inner⟩
  · exact ⟨t, .refl, mention⟩
  · have smaller := step.sizeOf_lt
    obtain ⟨v, flow, mention⟩ := flows_of_mem_styleNames inner
    exact ⟨v, .head step flow, mention⟩
termination_by sizeOf t

theorem mem_styleNames_iff {t : Term} :
    x ∈ styleNames containers t ↔ ∃ u, t.Flows u ∧ Mentions containers u x := by
  constructor
  · exact flows_of_mem_styleNames
  · rintro ⟨u, flow, mention⟩
    exact flow.mem_styleNames mention.mem_styleNames

theorem mem_styleNames_iff_access_or_container {t : Term} :
    x ∈ styleNames containers t ↔
      (∃ object place loc, x ≠ "" ∧ t.Flows (.member (.identifier object place) (some x) loc)) ∨
      ∃ container members loc, containers.get? container = some members ∧ x ∈ members ∧
        t.Flows (.identifier container loc) := by
  rw [mem_styleNames_iff]
  constructor
  · rintro ⟨u, flow, mention⟩
    cases mention with
    | access filled => exact .inl ⟨_, _, _, filled, flow⟩
    | container known member => exact .inr ⟨_, _, _, known, member, flow⟩
  · rintro (⟨object, place, loc, filled, flow⟩ | ⟨container, members, loc, known, member, flow⟩)
    · exact ⟨_, flow, .access filled⟩
    · exact ⟨_, flow, .container known member⟩

theorem mem_styleNames_congr {others : Containers}
    (same : ∀ name, containers.get? name = others.get? name) (t : Term) :
    x ∈ styleNames containers t ↔ x ∈ styleNames others t := by
  have transfer : ∀ {these those : Containers}, (∀ name, these.get? name = those.get? name) →
      x ∈ styleNames these t → x ∈ styleNames those t := by
    intro these those equal named
    obtain ⟨u, flow, mention⟩ := flows_of_mem_styleNames named
    refine flow.mem_styleNames ?_
    cases mention with
    | access filled => exact (Mentions.access filled).mem_styleNames
    | container known member =>
        rw [equal] at known
        exact (Mentions.container known member).mem_styleNames
  exact ⟨transfer same, transfer fun name => (same name).symm⟩

end StyleAudit
