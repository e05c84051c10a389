import StyleAudit.StyleNames

/-!
The bookkeeping of one file: which styles are defined and where, which names are used, and which
container holds which styles.

Definitions are common to the whole file. A name that two containers define keeps the place of its
first definition and the entry of its last. A container that is defined again has the styles of its
last definition only.
-/

namespace StyleAudit

structure SymbolTable where
  definitions : Registry Entry
  used : NameSet
  containers : Containers
  deriving Inhabited

namespace SymbolTable

def empty : SymbolTable := ⟨.empty, .empty, .empty⟩

/-- Defines the container `name` with `members` in source order, replacing what it held before. -/
def defineContainer (t : SymbolTable) (name : String) (members : List (String × Entry)) : SymbolTable :=
  { t with
    definitions := members.foldl (fun known member => known.put member.1 member.2) t.definitions
    containers := t.containers.put name (.ofList (members.map (·.1))) }

def recordUsage (t : SymbolTable) (name : String) : SymbolTable :=
  { t with used := t.used.insert name }

def recordUsages (t : SymbolTable) (names : List String) : SymbolTable :=
  { t with used := t.used.insertAll names }

def container? (t : SymbolTable) (name : String) : Option NameSet :=
  t.containers.get? name

def isUsed (t : SymbolTable) (name : String) : Bool :=
  decide (name ∈ t.used)

/-- Every defined style with its entry, in the order of first definition. -/
def allDefinitions (t : SymbolTable) : List (String × Entry) :=
  t.definitions.entries

def unusedDefinitions (t : SymbolTable) : List (String × Entry) :=
  t.allDefinitions.filter fun definition => !t.isUsed definition.1

end SymbolTable

end StyleAudit
