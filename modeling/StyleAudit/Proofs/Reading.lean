import StyleAudit.Proofs.Examination
import StyleAudit.Proofs.Flow
import StyleAudit.Proofs.Registry
import StyleAudit.Syntax.Source

/-!
# The findings of a tree, read off its sites

The sites of a tree are read without a state. A site declares a container or uses names; which names
a usage stands for depends on the containers declared above it, the last declaration of a name being
the one that counts. `report` lists the declared styles that no site uses, and the main statement is
that analyzing a tree always succeeds with exactly this list.
-/

namespace StyleAudit

open Syntax

/-! ## Declarations and usages -/

/-- A container with the styles it declares, in source order. -/
structure Declaration where
  container : String
  members : List (String × Entry)

def Term.staticMember? : Term → Option (String × Entry)
  | .property (some key) value loc => some (key, ⟨some key, value, loc⟩)
  | _ => none

def Term.staticMembers : Term → List (String × Entry)
  | .object entries _ => entries.filterMap staticMember?
  | _ => []

namespace Site

def declaration? : Site → Option Declaration
  | .binding (.identifier name _)
      (.call (.member (.identifier "StyleSheet" _) (some "create") _) (first :: _) _) _ =>
      some ⟨name, first.staticMembers⟩
  | _ => none

def members (s : Site) : List (String × Entry) :=
  match s.declaration? with
  | some d => d.members
  | none => []

/-- The expression that a site uses as a style. -/
def styleValue? : Site → Option Term
  | .attr name value loc => if (attr name value loc).isStyleAttribute then some value else none
  | .returned argument _ => some argument
  | .assignment _ _ value _ => some value
  | .binding .. => none

/-- The names that a site uses where `scope` holds the containers declared so far. -/
def uses (scope : Containers) (s : Site) : List String :=
  match s with
  | .binding (.objectPattern keys _) (.identifier source _) _ =>
      if scope.contains source then keys else []
  | s => match s.styleValue? with
      | some value => styleNames scope value
      | none => []

end Site

/-- The containers that sites declare, the latest first: a name stands for its last declaration. -/
def scopeAfter (sites : List Site) : Containers :=
  ⟨(sites.filterMap Site.declaration?).reverse.map fun d =>
    (d.container, NameSet.ofList (d.members.map (·.1)))⟩

/-- The names that sites use, each site in the scope of the sites before it. -/
def usedNames (sites : List Site) : List String :=
  sites.zipIdx.flatMap fun (s, i) => s.uses (scopeAfter (sites.take i))

/-- The declared styles without a usage: every name at its first declaration, with its last entry. -/
def report (sites : List Site) : List Finding :=
  ((latest (sites.flatMap Site.members)).filter fun style => style.1 ∉ usedNames sites).map
    fun style => ⟨style.1, style.2⟩

/-! ## What one site does to the table -/

theorem isStyleFactoryCall_inversion {t : Term} (factory : t.isStyleFactoryCall = true) :
    ∃ place inner arguments loc, t = .call
      (.member (.identifier "StyleSheet" place) (some "create") inner) arguments loc := by
  unfold Term.isStyleFactoryCall at factory
  split at factory
  · rename_i object place method inner arguments loc
    simp only [Bool.and_eq_true, beq_iff_eq] at factory
    obtain ⟨rfl, rfl⟩ := factory
    exact ⟨place, inner, arguments, loc, rfl⟩
  · cases factory

theorem definition?_inversion {s : Site} {v : Visit} (definition : Visit.definition? s = some v) :
    ∃ name target place inner arguments loc outer,
      s = .binding (.identifier name target) (.call
        (.member (.identifier "StyleSheet" place) (some "create") inner) arguments loc) outer ∧
      v = .definition name arguments := by
  unfold Visit.definition? at definition
  split at definition
  · rename_i name target init outer
    split at definition
    · rename_i factory
      obtain ⟨place, inner, arguments, loc, rfl⟩ := isStyleFactoryCall_inversion factory
      exact ⟨name, target, place, inner, arguments, loc, outer, rfl, (Option.some.inj definition).symm⟩
    · cases definition
  · cases definition

theorem declaration?_inversion {s : Site} {d : Declaration} (declared : s.declaration? = some d) :
    ∃ target place inner first rest loc outer,
      s = .binding (.identifier d.container target) (.call
        (.member (.identifier "StyleSheet" place) (some "create") inner) (first :: rest) loc) outer ∧
      d.members = first.staticMembers := by
  unfold Site.declaration? at declared
  split at declared
  · rename_i name target place inner first rest loc outer
    obtain rfl := Option.some.inj declared
    exact ⟨target, place, inner, first, rest, loc, outer, rfl, rfl⟩
  · cases declared

theorem definedStyles_members (entries : List Term) :
    (definedStyles entries).1 = entries.filterMap Term.staticMember? := by
  induction entries with
  | nil => rfl
  | cons t rest ih =>
      cases t with
      | property key value loc =>
          cases key <;>
            simp [definedStyles, Term.asEntry, Term.staticMember?, List.filterMap_cons, ih]
      | _ => simp [definedStyles, Term.asEntry, Term.staticMember?, List.filterMap_cons, ih]

theorem definedStyles_entries (t : Term) : (definedStyles t.entries).1 = t.staticMembers := by
  cases t with
  | object entries loc => exact definedStyles_members entries
  | _ => rfl

theorem uses_of_declaration {s : Site} {d : Declaration} (declared : s.declaration? = some d)
    (scope : Containers) : s.uses scope = [] := by
  obtain ⟨target, place, inner, first, rest, loc, outer, rfl, -⟩ := declaration?_inversion declared
  rfl

theorem uses_of_styleValue {s : Site} {value : Term} (valued : s.styleValue? = some value)
    (scope : Containers) : s.uses scope = styleNames scope value := by
  cases s with
  | binding target init loc => cases valued
  | _ => simp [Site.uses, valued]

theorem takeSite_of_declaration {s : Site} {d : Declaration} (declared : s.declaration? = some d)
    (t : SymbolTable) : t.takeSite s = t.defineContainer d.container d.members := by
  obtain ⟨target, place, inner, first, rest, loc, outer, rfl, members⟩ :=
    declaration?_inversion declared
  rw [members, ← definedStyles_entries]
  simp [SymbolTable.takeSite, SymbolTable.takeAll, Site.visit?, Site.shape, Visit.definition?, Term.isStyleFactoryCall,
    SymbolTable.take]

theorem styleAttribute?_eq (name : Option String) (value : Term) (loc : Location) :
    Visit.styleAttribute? (.attr name value loc) =
      if (Site.attr name value loc).isStyleAttribute then some (.usage value) else none := by
  cases name with
  | none => rfl
  | some name => simp [Site.isStyleAttribute, Visit.styleAttribute?]

theorem destructuring?_inversion {s : Site} {v : Visit}
    (destructuring : Visit.destructuring? s = some v) :
    ∃ keys target source place loc,
      s = .binding (.objectPattern keys target) (.identifier source place) loc ∧
      v = .destructuring keys source := by
  unfold Visit.destructuring? at destructuring
  split at destructuring
  · rename_i keys target source place loc
    exact ⟨keys, target, source, place, loc, rfl, (Option.some.inj destructuring).symm⟩
  · cases destructuring

theorem uses_binding_of_none {target init : Term} {loc : Location}
    (destructuring : Visit.destructuring? (.binding target init loc) = none) (scope : Containers) :
    (Site.binding target init loc).uses scope = [] := by
  unfold Site.uses
  split
  · rename_i keys place source inner outer shape
    rw [shape] at destructuring
    cases destructuring
  · rfl

theorem takeSite_binding {target init : Term} {loc : Location}
    (undeclared : (Site.binding target init loc).declaration? = none) (t : SymbolTable) :
    t.takeSite (.binding target init loc) =
      t.recordUsages ((Site.binding target init loc).uses t.containers) := by
  cases definition : Visit.definition? (.binding target init loc) with
  | some v =>
      obtain ⟨name, place, factory, inner, arguments, call, outer, shape, rfl⟩ :=
        definition?_inversion definition
      rw [shape] at undeclared ⊢
      -- Without a declaration the factory is called with no arguments, and nothing is taken in.
      cases arguments with
      | nil => rfl
      | cons first rest => cases undeclared
  | none =>
      cases destructuring : Visit.destructuring? (.binding target init loc) with
      | some v =>
          obtain ⟨keys, place, source, inner, outer, shape, rfl⟩ :=
            destructuring?_inversion destructuring
          rw [shape]
          by_cases known : (t.containers.get? source).isSome = true
          · simp [SymbolTable.takeSite, SymbolTable.takeAll, Site.visit?, Site.shape, Visit.definition?,
              Visit.destructuring?, SymbolTable.take, SymbolTable.container?, Site.uses,
              Registry.contains, known]
          · simp [SymbolTable.takeSite, SymbolTable.takeAll, Site.visit?, Site.shape, Visit.definition?,
              Visit.destructuring?, SymbolTable.take, SymbolTable.container?, Site.uses,
              Registry.contains, known, SymbolTable.recordUsages, NameSet.insertAll]
      | none =>
          rw [uses_binding_of_none destructuring]
          simp [SymbolTable.takeSite, SymbolTable.takeAll, Site.visit?, Site.shape, definition, destructuring,
            SymbolTable.recordUsages, NameSet.insertAll]

theorem takeSite_of_undeclared {s : Site} (undeclared : s.declaration? = none) (t : SymbolTable) :
    t.takeSite s = t.recordUsages (s.uses t.containers) := by
  cases s with
  | binding target init loc => exact takeSite_binding undeclared t
  | attr name value loc =>
      by_cases style : (Site.attr name value loc).isStyleAttribute = true
      · simp [SymbolTable.takeSite, SymbolTable.takeAll, Site.visit?, Site.shape, styleAttribute?_eq, style,
          SymbolTable.take, Site.uses, Site.styleValue?]
      · simp [SymbolTable.takeSite, SymbolTable.takeAll, Site.visit?, Site.shape, styleAttribute?_eq, style,
          Site.uses, Site.styleValue?, SymbolTable.recordUsages, NameSet.insertAll]
  | returned argument loc => rfl
  | assignment operator target value loc => rfl

/-! ## Scopes and usages of growing lists -/

theorem scopeAfter_concat_of_declaration {s : Site} {d : Declaration}
    (declared : s.declaration? = some d) (sites : List Site) (container : String) :
    (scopeAfter (sites ++ [s])).get? container =
      if d.container = container then some (.ofList (d.members.map (·.1)))
      else (scopeAfter sites).get? container := by
  by_cases same : d.container = container
  · simp [scopeAfter, Registry.get?, declared, same]
  · simp [scopeAfter, Registry.get?, declared, same]

theorem scopeAfter_concat_of_undeclared {s : Site} (undeclared : s.declaration? = none)
    (sites : List Site) : scopeAfter (sites ++ [s]) = scopeAfter sites := by
  simp [scopeAfter, undeclared]

theorem usedNames_concat (sites : List Site) (s : Site) :
    usedNames (sites ++ [s]) = usedNames sites ++ s.uses (scopeAfter sites) := by
  have earlier : ∀ indexed ∈ sites.zipIdx,
      indexed.1.uses (scopeAfter ((sites ++ [s]).take indexed.2)) =
        indexed.1.uses (scopeAfter (sites.take indexed.2)) := by
    intro indexed member
    have below : indexed.2 ≤ sites.length := by
      have := (List.mem_zipIdx' member).1
      omega
    rw [List.take_append_of_le_length below]
  unfold usedNames
  rw [List.zipIdx_append, List.flatMap_append]
  congr 1
  · exact List.flatMap_congr earlier
  · simp

theorem mem_uses_congr {these those : Containers}
    (same : ∀ name, these.get? name = those.get? name) (s : Site) {x : String} :
    x ∈ s.uses these ↔ x ∈ s.uses those := by
  unfold Site.uses
  split
  · rename_i keys target source place loc
    have known : these.contains source = those.contains source := by
      simp [Registry.contains, same]
    rw [known]
  · split
    · exact mem_styleNames_congr same _
    · rfl

/-! ## The invariant of a pass -/

structure SymbolTable.Reads (t : SymbolTable) (sites : List Site) : Prop where
  definitions : t.definitions.Records (sites.flatMap Site.members)
  containers : ∀ name, t.containers.get? name = (scopeAfter sites).get? name
  used : ∀ x, x ∈ t.used ↔ x ∈ usedNames sites

namespace SymbolTable.Reads

variable {t : SymbolTable} {sites : List Site}

theorem of_empty : SymbolTable.empty.Reads [] where
  definitions := .of_empty
  containers _ := rfl
  used x := by simp [SymbolTable.empty, usedNames]

theorem takeSite (reads : t.Reads sites) (s : Site) : (t.takeSite s).Reads (sites ++ [s]) := by
  cases declared : s.declaration? with
  | some d =>
      rw [takeSite_of_declaration declared]
      constructor
      · have members : s.members = d.members := by simp [Site.members, declared]
        rw [List.flatMap_append, List.flatMap_singleton, members]
        exact reads.definitions.putAll d.members
      · intro name
        rw [scopeAfter_concat_of_declaration declared, ← reads.containers]
        exact Registry.get?_put ..
      · intro x
        rw [usedNames_concat, uses_of_declaration declared, List.append_nil]
        exact reads.used x
  | none =>
      rw [takeSite_of_undeclared declared]
      constructor
      · have members : s.members = [] := by simp [Site.members, declared]
        rw [List.flatMap_append, List.flatMap_singleton, members, List.append_nil]
        exact reads.definitions
      · intro name
        rw [scopeAfter_concat_of_undeclared declared]
        exact reads.containers name
      · intro x
        rw [usedNames_concat, List.mem_append, ← reads.used, or_comm,
          ← mem_uses_congr reads.containers]
        exact NameSet.mem_insertAll

theorem takeSites (reads : t.Reads sites) (later : List Site) :
    (t.takeSites later).Reads (sites ++ later) := by
  induction later generalizing t sites with
  | nil =>
      rw [List.append_nil]
      exact reads
  | cons s rest ih =>
      rw [← List.singleton_append, ← List.append_assoc]
      exact ih (reads.takeSite s)

theorem unused_eq (reads : t.Reads sites) : Analyzer.unused t = report sites := by
  unfold Analyzer.unused report SymbolTable.unusedDefinitions SymbolTable.allDefinitions
  rw [reads.definitions.entries_eq]
  congr 1
  apply List.filter_congr
  intro style _
  simp [SymbolTable.isUsed, reads.used]

end SymbolTable.Reads

theorem reads_takeSites (sites : List Site) : (SymbolTable.empty.takeSites sites).Reads sites :=
  SymbolTable.Reads.of_empty.takeSites sites

/-! ## The findings -/

theorem mem_usedNames_iff {sites : List Site} {x : String} :
    x ∈ usedNames sites ↔
      ∃ before s after, sites = before ++ s :: after ∧ x ∈ s.uses (scopeAfter before) := by
  unfold usedNames
  rw [List.mem_flatMap]
  constructor
  · rintro ⟨⟨s, i⟩, member, used⟩
    obtain ⟨below, here⟩ := List.mem_zipIdx' member
    refine ⟨sites.take i, s, sites.drop (i + 1), ?_, used⟩
    rw [here, List.getElem_cons_drop, List.take_append_drop]
  · rintro ⟨before, s, after, rfl, used⟩
    refine ⟨(s, before.length), ?_, by simpa using used⟩
    rw [List.mem_zipIdx_iff_getElem?]
    simp

theorem exists_report_iff {sites : List Site} {x : String} :
    (∃ f ∈ report sites, f.name = x) ↔
      x ∈ (sites.flatMap Site.members).map (·.1) ∧ x ∉ usedNames sites := by
  rw [← mem_latest_names]
  constructor
  · rintro ⟨f, reported, rfl⟩
    obtain ⟨style, kept, rfl⟩ := List.mem_map.1 reported
    obtain ⟨listed, unused⟩ := List.mem_filter.1 kept
    exact ⟨List.mem_map.2 ⟨style, listed, rfl⟩, by simpa using unused⟩
  · rintro ⟨declared, unused⟩
    obtain ⟨style, listed, rfl⟩ := List.mem_map.1 declared
    refine ⟨⟨style.1, style.2⟩, List.mem_map.2 ⟨style, ?_, rfl⟩, rfl⟩
    exact List.mem_filter.2 ⟨listed, by simpa using unused⟩

theorem analyzeTree_reports (root : Node) : ∃ findings, analyzeTree root = .ok findings ∧
    ∀ x, (∃ f ∈ findings, f.name = x) ↔
      x ∈ (root.sites.flatMap Site.members).map (·.1) ∧ x ∉ usedNames root.sites := by
  refine ⟨report root.sites, ?_, fun x => exists_report_iff⟩
  rw [analyzeTree_eq_unused, (reads_takeSites root.sites).unused_eq]

theorem analyzeTree_eq_report (root : Node) : analyzeTree root = .ok (report root.sites) := by
  rw [analyzeTree_eq_unused, (reads_takeSites root.sites).unused_eq]

/-! ## Small trees -/

namespace Sample

def word (kind : String) (bytes : List UInt8) : Node :=
  ⟨kind, true, none, false, ⟨0, 0⟩, some bytes, []⟩

def tree (kind : String) (children : List Node) : Node := .branch kind ⟨0, 0⟩ children

def factory : Node :=
  tree "member_expression" [
    (word "identifier" [0x53, 0x74, 0x79, 0x6c, 0x65, 0x53, 0x68, 0x65, 0x65, 0x74]).filling "object",
    (word "property_identifier" [0x63, 0x72, 0x65, 0x61, 0x74, 0x65]).filling "property"]

/-- The tree of `s = StyleSheet.create({ box: {} })` in a declaration. -/
def sheet : Node :=
  tree "variable_declarator" [
    (word "identifier" [0x73]).filling "name",
    (tree "call_expression" [
      factory.filling "function",
      (tree "arguments" [tree "object" [tree "pair" [
        (word "property_identifier" [0x62, 0x6f, 0x78]).filling "key",
        (tree "object" []).filling "value"]]]).filling "arguments"]).filling "value"]

end Sample

example : (report Sample.sheet.sites).map (·.name) = ["box"] := by decide

end StyleAudit
