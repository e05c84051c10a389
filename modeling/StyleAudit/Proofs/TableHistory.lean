import StyleAudit.Proofs.Registry
import StyleAudit.SymbolTable
import Mathlib.Data.List.Induction

/-!
# A symbol table against its history

A symbol table keeps definitions and containers under different rules: a container that is defined
again loses its earlier members, while a definition stays for good and only changes its entry. Both
are registries that take in one value after the other, so both can be read off the operations that
were performed. The main statement does so for every sequence of operations on the empty table.
-/

namespace StyleAudit

/-! ## Listings of a history -/

/-- Of the values that the history gives to the name, this is the last one. -/
def GivenLast {α : Type} (history : List (String × α)) (name : String) (value : α) : Prop :=
  ∃ before after, history = before ++ (name, value) :: after ∧ ∀ later ∈ after, later.1 ≠ name

/-- Every name of the history once, in the order of their first values, each with its last value. -/
structure ListsLatest {α : Type} (entries history : List (String × α)) : Prop where
  once : (entries.map (·.1)).Nodup
  names : ∀ name, name ∈ entries.map (·.1) ↔ name ∈ history.map (·.1)
  ordered : (entries.map (·.1)).Pairwise fun first second =>
    (history.map (·.1)).idxOf first < (history.map (·.1)).idxOf second
  last : ∀ name value, (name, value) ∈ entries ↔ GivenLast history name value

theorem lookup_reverse_eq_some_iff {α : Type} {history : List (String × α)} {name : String}
    {value : α} : history.reverse.lookup name = some value ↔ GivenLast history name value := by
  rw [List.lookup_eq_some_iff]
  constructor
  · rintro ⟨later, earlier, split, apart⟩
    refine ⟨earlier.reverse, later.reverse, ?_, ?_⟩
    · simpa using List.reverse_eq_append_iff.1 split
    · intro entry member same
      have differs := apart entry (List.mem_reverse.1 member)
      simp [same] at differs
  · rintro ⟨before, after, rfl, apart⟩
    refine ⟨after.reverse, before.reverse, by simp, ?_⟩
    intro entry member
    have differs := apart entry (List.mem_reverse.1 member)
    simpa using fun same => differs same.symm

theorem pairwise_idxOf_eraseDups (names : List String) :
    names.eraseDups.Pairwise fun first second => names.idxOf first < names.idxOf second := by
  -- A name at the end moves no earlier name, and is itself listed only if it is new.
  induction names using List.reverseRecOn with
  | nil => simp
  | append_singleton names name ih =>
      have earlier : ∀ other ∈ names.eraseDups, (names ++ [name]).idxOf other = names.idxOf other :=
        fun other member => List.idxOf_append_of_mem (List.mem_eraseDups.1 member)
      have kept : names.eraseDups.Pairwise fun first second =>
          (names ++ [name]).idxOf first < (names ++ [name]).idxOf second := by
        refine ih.imp_of_mem fun first second below => ?_
        rw [earlier _ first, earlier _ second]
        exact below
      rw [Registry.eraseDups_concat]
      split
      · exact kept
      · rename_i fresh
        refine List.pairwise_append.2 ⟨kept, List.pairwise_singleton _ _, ?_⟩
        intro other member last single
        obtain rfl := List.mem_singleton.1 single
        have absent : last ∉ names := fun known => fresh (List.mem_eraseDups.2 known)
        rw [earlier other member, List.idxOf_append_of_notMem absent]
        have bound := List.idxOf_lt_length_of_mem (List.mem_eraseDups.1 member)
        omega

namespace Registry

variable {α : Type} {r : Registry α} {history : List (String × α)}

theorem get?_eq_some_iff_of_nodup (nodup : r.keys.Nodup) {name : String} {value : α} :
    r.get? name = some value ↔ (name, value) ∈ r.entries := by
  constructor
  · intro found
    obtain ⟨⟨key, last⟩, first, rfl⟩ := Option.map_eq_some_iff.1 found
    have same : key = name := by simpa using List.find?_some first
    exact same ▸ List.mem_of_find?_eq_some first
  · intro member
    rw [get?, find?_of_nodup nodup member]
    rfl

theorem Records.listsLatest (records : r.Records history) : ListsLatest r.entries history where
  once := records.nodup
  names name := by
    have keys : r.entries.map (·.1) = (history.map (·.1)).eraseDups := records.keys_eq
    rw [keys, List.mem_eraseDups]
  ordered := by
    have keys : r.entries.map (·.1) = (history.map (·.1)).eraseDups := records.keys_eq
    rw [keys]
    exact pairwise_idxOf_eraseDups _
  last name value := by
    rw [← get?_eq_some_iff_of_nodup records.nodup, records.get?_eq, lookup_reverse_eq_some_iff]

end Registry

/-! ## Operations -/

inductive TableOperation where
  | define (container : String) (members : List (String × Entry))
  | record (name : String)
  | recordAll (names : List String)

namespace TableOperation

def definitions : TableOperation → List (String × Entry)
  | define _ members => members
  | _ => []

def containers : TableOperation → List (String × NameSet)
  | define container members => [(container, .ofList (members.map (·.1)))]
  | _ => []

def recorded : TableOperation → List String
  | define .. => []
  | record name => [name]
  | recordAll names => names

end TableOperation

/-- The container is defined with these members, and never again. -/
def DefinedLast (operations : List TableOperation) (container : String)
    (members : List (String × Entry)) : Prop :=
  ∃ before after, operations = before ++ .define container members :: after ∧
    ∀ others, .define container others ∉ after

section

variable {operations : List TableOperation} {container : String} {members : List (String × Entry)}

theorem DefinedLast.cases_concat {operation : TableOperation}
    (defined : DefinedLast (operations ++ [operation]) container members) :
    operation = .define container members ∨
      (∀ others, operation ≠ .define container others) ∧ DefinedLast operations container members := by
  obtain ⟨before, after, split, last⟩ := defined
  rcases after.eq_nil_or_concat' with rfl | ⟨between, final, rfl⟩
  · exact .inl (List.singleton_inj.1 (List.append_inj_right' split rfl))
  · rw [← List.cons_append, ← List.append_assoc] at split
    obtain rfl := List.singleton_inj.1 (List.append_inj_right' split rfl)
    refine .inr ⟨fun others same => ?_, before, between, List.append_inj_left' split rfl,
      fun others member => last others (List.mem_append_left _ member)⟩
    exact last others (List.mem_append_right _ (List.mem_singleton.2 same.symm))

theorem definedLast_concat_self {latest : List (String × Entry)} :
    DefinedLast (operations ++ [.define container latest]) container members ↔ members = latest := by
  refine ⟨fun defined => ?_, ?_⟩
  · rcases defined.cases_concat with same | ⟨other, -⟩
    · cases same
      rfl
    · exact absurd rfl (other latest)
  · rintro rfl
    exact ⟨operations, [], rfl, fun _ => List.not_mem_nil⟩

theorem definedLast_concat_of_ne {operation : TableOperation}
    (other : ∀ latest, operation ≠ .define container latest) :
    DefinedLast (operations ++ [operation]) container members ↔
      DefinedLast operations container members := by
  refine ⟨fun defined => ?_, ?_⟩
  · rcases defined.cases_concat with same | ⟨-, earlier⟩
    · exact absurd same (other members)
    · exact earlier
  · rintro ⟨before, after, rfl, last⟩
    refine ⟨before, after ++ [operation], by simp, fun others member => ?_⟩
    rcases List.mem_append.1 member with earlier | final
    · exact last others earlier
    · exact other others (List.mem_singleton.1 final).symm

end

namespace SymbolTable

def perform (t : SymbolTable) : TableOperation → SymbolTable
  | .define container members => t.defineContainer container members
  | .record name => t.recordUsage name
  | .recordAll names => t.recordUsages names

def after (t : SymbolTable) (operations : List TableOperation) : SymbolTable :=
  operations.foldl perform t

/-! ## The invariant of a run -/

structure Follows (t : SymbolTable) (operations : List TableOperation) : Prop where
  definitions : t.definitions.Records (operations.flatMap TableOperation.definitions)
  containers : t.containers.Records (operations.flatMap TableOperation.containers)
  used : ∀ name, name ∈ t.used ↔ name ∈ operations.flatMap TableOperation.recorded

namespace Follows

variable {t : SymbolTable} {operations : List TableOperation}

theorem of_empty : SymbolTable.empty.Follows [] where
  definitions := .of_empty
  containers := .of_empty
  used name := by simp [SymbolTable.empty]

theorem recordUsages (follows : t.Follows operations) (operation : TableOperation)
    (undefining : operation.definitions = []) (uncontaining : operation.containers = []) :
    (t.recordUsages operation.recorded).Follows (operations ++ [operation]) where
  definitions := by
    rw [List.flatMap_append, List.flatMap_singleton, undefining, List.append_nil]
    exact follows.definitions
  containers := by
    rw [List.flatMap_append, List.flatMap_singleton, uncontaining, List.append_nil]
    exact follows.containers
  used name := by
    rw [List.flatMap_append, List.flatMap_singleton, List.mem_append, ← follows.used, or_comm]
    exact NameSet.mem_insertAll

theorem perform (follows : t.Follows operations) (operation : TableOperation) :
    (t.perform operation).Follows (operations ++ [operation]) := by
  cases operation with
  | define container members =>
      constructor
      · rw [List.flatMap_append, List.flatMap_singleton]
        exact follows.definitions.putAll members
      · rw [List.flatMap_append, List.flatMap_singleton]
        exact follows.containers.put container _
      · intro name
        rw [List.flatMap_append, List.flatMap_singleton, TableOperation.recorded, List.append_nil]
        exact follows.used name
  | record name => exact follows.recordUsages (.record name) rfl rfl
  | recordAll names => exact follows.recordUsages (.recordAll names) rfl rfl

theorem after (follows : t.Follows operations) (later : List TableOperation) :
    (t.after later).Follows (operations ++ later) := by
  induction later generalizing t operations with
  | nil =>
      rw [List.append_nil]
      exact follows
  | cons operation rest ih =>
      rw [← List.singleton_append, ← List.append_assoc]
      exact ih (follows.perform operation)

theorem container?_eq_some_iff (follows : t.Follows operations) {container : String}
    {members : NameSet} : t.container? container = some members ↔
      GivenLast (operations.flatMap TableOperation.containers) container members := by
  rw [container?, follows.containers.get?_eq, lookup_reverse_eq_some_iff]

theorem defined_of_mem_container (follows : t.Follows operations) {container style : String}
    {members : NameSet} (known : t.container? container = some members) (member : style ∈ members) :
    style ∈ t.allDefinitions.map (·.1) := by
  obtain ⟨before, after, split, -⟩ := follows.container?_eq_some_iff.1 known
  have given : (container, members) ∈ operations.flatMap TableOperation.containers := by
    rw [split]
    exact List.mem_append_right _ List.mem_cons_self
  obtain ⟨operation, performed, made⟩ := List.mem_flatMap.1 given
  cases operation with
  | define name styles =>
      obtain ⟨rfl, rfl⟩ := Prod.mk.inj (List.mem_singleton.1 made)
      obtain ⟨definition, listed, rfl⟩ := List.mem_map.1 (NameSet.mem_ofList.1 member)
      refine (follows.definitions.listsLatest.names _).2 (List.mem_map.2 ⟨definition, ?_, rfl⟩)
      exact List.mem_flatMap.2 ⟨_, performed, listed⟩
  | record name => cases made
  | recordAll names => cases made

theorem unusedDefinitions_eq (follows : t.Follows operations) :
    t.unusedDefinitions = t.allDefinitions.filter fun style =>
      style.1 ∉ operations.flatMap TableOperation.recorded := by
  unfold unusedDefinitions
  apply List.filter_congr
  intro style _
  simp only [isUsed, follows.used, decide_not]

end Follows

/-- A container holds what its last definition has put into it. -/
theorem container?_after_eq_some_iff (operations : List TableOperation) (container : String)
    (held : NameSet) :
    (SymbolTable.empty.after operations).container? container = some held ↔
      ∃ members, DefinedLast operations container members ∧
        ∀ style, style ∈ held ↔ style ∈ members.map (·.1) := by
  induction operations using List.reverseRecOn with
  | nil =>
      refine ⟨nofun, ?_⟩
      rintro ⟨members, ⟨before, after, split, -⟩, -⟩
      simp at split
  | append_singleton operations operation ih =>
      have last : SymbolTable.empty.after (operations ++ [operation]) =
          (SymbolTable.empty.after operations).perform operation := by
        rw [after, List.foldl_append]
        rfl
      rw [last]
      by_cases redefined : ∃ latest, operation = .define container latest
      · obtain ⟨latest, rfl⟩ := redefined
        have found : ((SymbolTable.empty.after operations).perform
            (.define container latest)).container? container =
            some (.ofList (latest.map (·.1))) :=
          (Registry.get?_put ..).trans (if_pos rfl)
        simp only [found, definedLast_concat_self, exists_eq_left, Option.some.injEq]
        constructor
        · rintro rfl style
          exact NameSet.mem_ofList
        · intro same
          exact NameSet.eq_of_mem_iff fun style => NameSet.mem_ofList.trans (same style).symm
      · have other := not_exists.1 redefined
        have kept : ((SymbolTable.empty.after operations).perform operation).container? container =
            (SymbolTable.empty.after operations).container? container := by
          cases operation with
          | define name members =>
              have apart : name ≠ container := fun same => other members (same ▸ rfl)
              exact (Registry.get?_put ..).trans (if_neg apart)
          | record name => rfl
          | recordAll names => rfl
        simp only [kept, ih, definedLast_concat_of_ne other]

theorem table_agrees_with_history (operations : List TableOperation) :
    let t := SymbolTable.empty.after operations
    ListsLatest t.allDefinitions (operations.flatMap TableOperation.definitions) ∧
    ListsLatest t.containers.entries (operations.flatMap TableOperation.containers) ∧
    (∀ container members, t.container? container = some members ↔
      GivenLast (operations.flatMap TableOperation.containers) container members) ∧
    (∀ container held, t.container? container = some held ↔
      ∃ members, DefinedLast operations container members ∧
        ∀ style, style ∈ held ↔ style ∈ members.map (·.1)) ∧
    (∀ container members, t.container? container = some members →
      ∀ style ∈ members, style ∈ t.allDefinitions.map (·.1)) ∧
    (∀ name, name ∈ t.used ↔ name ∈ operations.flatMap TableOperation.recorded) ∧
    t.unusedDefinitions = t.allDefinitions.filter fun style =>
      style.1 ∉ operations.flatMap TableOperation.recorded := by
  intro t
  have follows : t.Follows operations := Follows.of_empty.after operations
  refine ⟨follows.definitions.listsLatest, follows.containers.listsLatest, ?_,
    container?_after_eq_some_iff operations, ?_, follows.used, follows.unusedDefinitions_eq⟩
  · exact fun container members => follows.container?_eq_some_iff
  · exact fun container members known style member => follows.defined_of_mem_container known member

-- The second definition of `s` drops `text` from it, but not from the definitions.
example :
    let t := SymbolTable.empty.after [.define "s" [("box", default), ("text", default)],
      .record "text", .define "s" [("row", default), ("box", default)]]
    t.allDefinitions.map (·.1) = ["box", "text", "row"] ∧
      (t.container? "s").map (·.names) = some ["box", "row"] ∧
      t.unusedDefinitions.map (·.1) = ["box", "row"] := by decide

end SymbolTable

end StyleAudit
