import StyleAudit.Names
import Mathlib.Data.List.Nodup
import Mathlib.Data.List.Sort
import Mathlib.Data.String.Basic

/-!
# Sets and registries by what they hold

A set of names is determined by its members. A registry is determined by the sequence of values put
into it: it lists every name once, at the place of its first value, with its last value.
`Registry.Records` is the invariant that one `put` keeps, `Registry.Records.entries_eq` reads the
listing off a history.
-/

namespace StyleAudit

theorem NameSet.eq_of_mem_iff {these those : NameSet} (same : ∀ x, x ∈ these ↔ x ∈ those) :
    these = those := by
  obtain ⟨names, increasing⟩ := these
  obtain ⟨others, increasing'⟩ := those
  obtain rfl : names = others := increasing.eq_of_mem_iff increasing' same
  rfl

/-- The last value of every name, in the order in which the names first occur. -/
def latest {α : Type} (history : List (String × α)) : List (String × α) :=
  (history.map (·.1)).eraseDups.filterMap fun name =>
    (history.reverse.lookup name).map fun value => (name, value)

theorem mem_latest_names {α : Type} {history : List (String × α)} {name : String} :
    name ∈ (latest history).map (·.1) ↔ name ∈ history.map (·.1) := by
  constructor
  · intro member
    obtain ⟨⟨_, value⟩, listed, rfl⟩ := List.mem_map.1 member
    obtain ⟨key, known, found⟩ := List.mem_filterMap.1 listed
    obtain ⟨_, -, equal⟩ := Option.map_eq_some_iff.1 found
    rw [← congrArg Prod.fst equal]
    exact List.mem_eraseDups.1 known
  · intro member
    obtain ⟨entry, recorded, rfl⟩ := List.mem_map.1 member
    have found : (history.reverse.lookup entry.1).isSome := by
      rw [List.lookup_isSome_iff]
      exact ⟨entry, List.mem_reverse.2 recorded, beq_self_eq_true _⟩
    obtain ⟨value, last⟩ := Option.isSome_iff_exists.1 found
    refine List.mem_map.2 ⟨(entry.1, value), ?_, rfl⟩
    exact List.mem_filterMap.2 ⟨entry.1, List.mem_eraseDups.2 member, by rw [last]; rfl⟩

namespace Registry

variable {α : Type}

/-! ## Keys -/

theorem keys_putEntry (key : String) (value : α) (entries : List (String × α)) :
    (putEntry key value entries).map (·.1) =
      if key ∈ entries.map (·.1) then entries.map (·.1) else entries.map (·.1) ++ [key] := by
  induction entries with
  | nil => simp [putEntry]
  | cons entry rest ih =>
      by_cases here : entry.1 = key
      · simp [putEntry, here]
      · have apart : key ≠ entry.1 := fun equal => here equal.symm
        simp only [putEntry, here, if_false, List.map_cons, ih, List.mem_cons, apart, false_or]
        split <;> rfl

theorem keys_put (r : Registry α) (key : String) (value : α) :
    (r.put key value).keys = if key ∈ r.keys then r.keys else r.keys ++ [key] :=
  keys_putEntry key value r.entries

theorem nodup_keys_put {r : Registry α} (nodup : r.keys.Nodup) (key : String) (value : α) :
    (r.put key value).keys.Nodup := by
  rw [keys_put]
  split
  · exact nodup
  · rename_i fresh
    refine List.nodup_append.2 ⟨nodup, by simp, ?_⟩
    intro known member other single equal
    rw [List.mem_singleton.1 single] at equal
    exact fresh (equal ▸ member)

theorem find?_of_nodup {entries : List (String × α)} (nodup : (entries.map (·.1)).Nodup)
    {entry : String × α} (member : entry ∈ entries) :
    entries.find? (fun other => other.1 = entry.1) = some entry := by
  cases found : entries.find? (fun other => other.1 = entry.1) with
  | none =>
      have missed := List.find?_eq_none.1 found entry member
      simp at missed
  | some other =>
      have same : other.1 = entry.1 := by simpa using List.find?_some found
      exact congrArg some
        (List.inj_on_of_nodup_map nodup (List.mem_of_find?_eq_some found) member same)

theorem entries_of_nodup {r : Registry α} (nodup : r.keys.Nodup) :
    r.entries = r.keys.filterMap fun key => (r.get? key).map fun value => (key, value) := by
  have found : ∀ entry ∈ r.entries,
      (r.get? entry.1).map (fun value => (entry.1, value)) = some entry := by
    intro entry member
    rw [get?, find?_of_nodup nodup member]
    rfl
  rw [keys, List.filterMap_map]
  exact (List.filterMap_some.symm.trans (List.filterMap_congr fun entry member =>
    (found entry member).symm))

/-! ## Histories -/

structure Records (r : Registry α) (history : List (String × α)) : Prop where
  nodup : r.keys.Nodup
  keys_eq : r.keys = (history.map (·.1)).eraseDups
  get?_eq : ∀ key, r.get? key = history.reverse.lookup key

theorem eraseDups_concat (names : List String) (name : String) :
    (names ++ [name]).eraseDups =
      if name ∈ names.eraseDups then names.eraseDups else names.eraseDups ++ [name] := by
  rw [List.eraseDups_append]
  by_cases known : name ∈ names
  · simp [List.removeAll, known, List.mem_eraseDups]
  · simp [List.removeAll, known, List.mem_eraseDups, List.eraseDups_cons]

namespace Records

variable {r : Registry α} {history : List (String × α)}

theorem of_empty : (empty : Registry α).Records [] :=
  ⟨List.nodup_nil, rfl, fun _ => rfl⟩

theorem put (records : r.Records history) (key : String) (value : α) :
    (r.put key value).Records (history ++ [(key, value)]) where
  nodup := nodup_keys_put records.nodup key value
  keys_eq := by
    rw [keys_put, List.map_append, List.map_cons, List.map_nil, eraseDups_concat, records.keys_eq]
  get?_eq other := by
    rw [get?_put, List.reverse_concat, List.lookup_cons, records.get?_eq]
    by_cases same : key = other
    · simp [same]
    · have apart : (other == key) = false := by simpa using fun equal => same equal.symm
      simp [same, apart]

theorem putAll (records : r.Records history) (members : List (String × α)) :
    (members.foldl (fun known member => known.put member.1 member.2) r).Records
      (history ++ members) := by
  induction members generalizing r history with
  | nil => simpa using records
  | cons member rest ih =>
      rw [List.foldl_cons]
      simpa using ih (records.put member.1 member.2)

theorem entries_eq (records : r.Records history) : r.entries = latest history := by
  rw [entries_of_nodup records.nodup, latest, records.keys_eq]
  simp only [records.get?_eq]

end Records

end Registry

end StyleAudit
