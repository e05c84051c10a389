/-!
Sets of names and maps keyed by names.

* `NameSet` is a strictly increasing list, so two sets with the same members are equal and listing a
  set gives its names in code point order.
* `Registry` keeps its entries in the order in which their keys first arrived; a later value takes
  the place of an earlier one without moving it.
-/

namespace StyleAudit

/-! ## Sets -/

def insertName (x : String) : List String → List String
  | [] => [x]
  | y :: rest => if x < y then x :: y :: rest else if y < x then y :: insertName x rest else y :: rest

theorem mem_insertName {x z : String} {names : List String} :
    z ∈ insertName x names ↔ z = x ∨ z ∈ names := by
  induction names with
  | nil => simp [insertName]
  | cons y rest ih =>
    unfold insertName
    split
    · simp
    · split
      · simp only [List.mem_cons, ih]
        exact or_left_comm
      · rename_i notBelow notAbove
        have equal : x = y := String.le_antisymm (String.not_lt.1 notAbove) (String.not_lt.1 notBelow)
        simp [equal]

theorem pairwise_insertName (x : String) : ∀ {names : List String},
    names.Pairwise (· < ·) → (insertName x names).Pairwise (· < ·)
  | [], _ => by simp [insertName]
  | y :: rest, sorted => by
    obtain ⟨below, tail⟩ := List.pairwise_cons.1 sorted
    unfold insertName
    split
    · rename_i first
      refine List.pairwise_cons.2 ⟨fun z member => ?_, sorted⟩
      rcases List.mem_cons.1 member with rfl | later
      · exact first
      · exact String.lt_trans first (below z later)
    · split
      · rename_i after
        refine List.pairwise_cons.2 ⟨fun z member => ?_, pairwise_insertName x tail⟩
        rcases mem_insertName.1 member with rfl | later
        · exact after
        · exact below z later
      · exact sorted

structure NameSet where
  names : List String
  increasing : names.Pairwise (· < ·)

namespace NameSet

def empty : NameSet := ⟨[], List.Pairwise.nil⟩

instance : Inhabited NameSet := ⟨empty⟩

instance : Membership String NameSet := ⟨fun s x => x ∈ s.names⟩

instance (x : String) (s : NameSet) : Decidable (x ∈ s) :=
  inferInstanceAs (Decidable (x ∈ s.names))

def insert (s : NameSet) (x : String) : NameSet :=
  ⟨insertName x s.names, pairwise_insertName x s.increasing⟩

def insertAll (s : NameSet) (xs : List String) : NameSet :=
  xs.foldl insert s

def ofList (xs : List String) : NameSet :=
  empty.insertAll xs

def toList (s : NameSet) : List String := s.names

@[simp] theorem mem_toList {x : String} {s : NameSet} : x ∈ s.toList ↔ x ∈ s := Iff.rfl

@[simp] theorem not_mem_empty (x : String) : x ∉ empty := by
  change x ∉ ([] : List String)
  simp

@[simp] theorem mem_insert {x z : String} {s : NameSet} : z ∈ s.insert x ↔ z = x ∨ z ∈ s :=
  mem_insertName

@[simp] theorem mem_insertAll {z : String} {xs : List String} {s : NameSet} :
    z ∈ s.insertAll xs ↔ z ∈ xs ∨ z ∈ s := by
  induction xs generalizing s with
  | nil => simp [insertAll]
  | cons x rest ih =>
    have step := ih (s := s.insert x)
    simp only [insertAll, List.foldl_cons] at step ⊢
    rw [step, mem_insert, List.mem_cons]
    exact or_left_comm.trans or_assoc.symm

@[simp] theorem mem_ofList {z : String} {xs : List String} : z ∈ ofList xs ↔ z ∈ xs := by
  simp [ofList]

end NameSet

/-! ## Maps -/

/-- Replaces the value of `key` where it stands, or adds the entry at the end. -/
def putEntry {α : Type} (key : String) (value : α) : List (String × α) → List (String × α)
  | [] => [(key, value)]
  | (k, v) :: rest => if k = key then (k, value) :: rest else (k, v) :: putEntry key value rest

/-- A map that remembers the order in which its keys first arrived. -/
structure Registry (α : Type) where
  entries : List (String × α)

namespace Registry

variable {α : Type}

def empty : Registry α := ⟨[]⟩

instance : Inhabited (Registry α) := ⟨empty⟩

def put (r : Registry α) (key : String) (value : α) : Registry α :=
  ⟨putEntry key value r.entries⟩

def get? (r : Registry α) (key : String) : Option α :=
  (r.entries.find? fun entry => entry.1 = key).map (·.2)

def contains (r : Registry α) (key : String) : Bool :=
  (r.get? key).isSome

def erase (r : Registry α) (key : String) : Registry α :=
  ⟨r.entries.filter fun entry => entry.1 ≠ key⟩

def keys (r : Registry α) : List String :=
  r.entries.map (·.1)

@[simp] theorem get?_empty (key : String) : (empty : Registry α).get? key = none := rfl

theorem find?_putEntry (key other : String) (value : α) : ∀ entries : List (String × α),
    (putEntry key value entries).find? (fun entry => entry.1 = other) =
      if key = other then some (key, value) else entries.find? (fun entry => entry.1 = other)
  | [] => by
    by_cases same : key = other <;> simp [putEntry, same]
  | (k, v) :: rest => by
    have ih := find?_putEntry key other value rest
    unfold putEntry
    by_cases here : k = key
    · subst here
      by_cases same : k = other <;> simp [same]
    · by_cases same : k = other
      · subst same
        have apart : ¬ key = k := fun equal => here equal.symm
        simp [here, apart]
      · simp [here, same, ih]

theorem get?_put (r : Registry α) (key other : String) (value : α) :
    (r.put key value).get? other = if key = other then some value else r.get? other := by
  by_cases same : key = other <;> simp [get?, put, find?_putEntry, same]

end Registry

end StyleAudit
