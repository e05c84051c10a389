import StyleAudit.Proofs.Examination
import Mathlib.Logic.Equiv.Basic

/-!
# Identifiers only name containers

Renaming the identifiers of all sites, by an injective renaming that keeps the factory's name, changes
nothing about the styles of a file. Each function that reads a site commutes with the renaming, so
that the two runs stay related step by step: the symbol table of the renamed sites is the renamed
symbol table (`takeSites_rename`), in which only the names of the containers differ.
-/

namespace StyleAudit

/-! ## Renamed sites -/

mutual

/-- The term with every identifier in it renamed; members, keys and operators stay. -/
def Term.rename (r : String → String) : Term → Term
  | .absent => .absent
  | .other kind loc => .other kind loc
  | .identifier name loc => .identifier (r name) loc
  | .member object member loc => .member (object.rename r) member loc
  | .spread argument loc => .spread (argument.rename r) loc
  | .array elements loc => .array (renameAll r elements) loc
  | .property key value loc => .property key (value.rename r) loc
  | .object entries loc => .object (renameAll r entries) loc
  | .conditional test consequent alternate loc =>
      .conditional (test.rename r) (consequent.rename r) (alternate.rename r) loc
  | .logical operator left right loc => .logical operator (left.rename r) (right.rename r) loc
  | .binary operator left right loc => .binary operator (left.rename r) (right.rename r) loc
  | .unary operator argument loc => .unary operator (argument.rename r) loc
  | .update operator argument loc => .update operator (argument.rename r) loc
  | .call callee arguments loc => .call (callee.rename r) (renameAll r arguments) loc
  | .objectPattern keys loc => .objectPattern keys loc
  | .binding target init loc => .binding (target.rename r) (init.rename r) loc
  | .attr name value loc => .attr name (value.rename r) loc
  | .returned argument loc => .returned (argument.rename r) loc
  | .assignment operator target value loc =>
      .assignment operator (target.rename r) (value.rename r) loc

def renameAll (r : String → String) : List Term → List Term
  | [] => []
  | t :: rest => t.rename r :: renameAll r rest

end

def Site.rename (r : String → String) : Site → Site
  | .binding target init loc => .binding (target.rename r) (init.rename r) loc
  | .attr name value loc => .attr name (value.rename r) loc
  | .returned argument loc => .returned (argument.rename r) loc
  | .assignment operator target value loc =>
      .assignment operator (target.rename r) (value.rename r) loc

def Visit.rename (r : String → String) : Visit → Visit
  | .definition container arguments => .definition (r container) (renameAll r arguments)
  | .destructuring keys source => .destructuring keys (r source)
  | .usage value => .usage (value.rename r)

def Entry.rename (r : String → String) (e : Entry) : Entry := { e with value := e.value.rename r }

/-! ## Renamed registries -/

namespace Registry

variable {α β : Type} {r : String → String}

def renameKeys (r : String → String) (registry : Registry α) : Registry α :=
  ⟨registry.entries.map fun entry => (r entry.1, entry.2)⟩

def mapValues (f : α → β) (registry : Registry α) : Registry β :=
  ⟨registry.entries.map fun entry => (entry.1, f entry.2)⟩

theorem putEntry_renameKeys (injective : Function.Injective r) (key : String) (value : α)
    (entries : List (String × α)) :
    putEntry (r key) value (entries.map fun entry => (r entry.1, entry.2)) =
      (putEntry key value entries).map fun entry => (r entry.1, entry.2) := by
  induction entries with
  | nil => rfl
  | cons entry rest ih =>
      by_cases same : entry.1 = key
      · simp [putEntry, same]
      · have apart : r entry.1 ≠ r key := fun equal => same (injective equal)
        simp [putEntry, same, apart, ih]

theorem put_renameKeys (injective : Function.Injective r) (registry : Registry α) (key : String)
    (value : α) :
    (registry.renameKeys r).put (r key) value = (registry.put key value).renameKeys r :=
  congrArg Registry.mk (putEntry_renameKeys injective key value registry.entries)

theorem get?_renameKeys (injective : Function.Injective r) (registry : Registry α) (key : String) :
    (registry.renameKeys r).get? (r key) = registry.get? key := by
  simp [get?, renameKeys, List.find?_map, Function.comp_def, injective.eq_iff]

theorem putEntry_mapValues (f : α → β) (key : String) (value : α) (entries : List (String × α)) :
    putEntry key (f value) (entries.map fun entry => (entry.1, f entry.2)) =
      (putEntry key value entries).map fun entry => (entry.1, f entry.2) := by
  induction entries with
  | nil => rfl
  | cons entry rest ih =>
      by_cases same : entry.1 = key
      · simp [putEntry, same]
      · simp [putEntry, same, ih]

theorem put_mapValues (f : α → β) (registry : Registry α) (key : String) (value : α) :
    (registry.mapValues f).put key (f value) = (registry.put key value).mapValues f :=
  congrArg Registry.mk (putEntry_mapValues f key value registry.entries)

theorem foldl_put_mapValues (f : α → β) (members : List (String × α)) (registry : Registry α) :
    (members.map fun member => (member.1, f member.2)).foldl
        (fun known member => known.put member.1 member.2) (registry.mapValues f) =
      (members.foldl (fun known member => known.put member.1 member.2) registry).mapValues f := by
  induction members generalizing registry with
  | nil => rfl
  | cons member rest ih =>
      rw [List.map_cons, List.foldl_cons, put_mapValues, ih, List.foldl_cons]

end Registry

def SymbolTable.rename (r : String → String) (t : SymbolTable) : SymbolTable where
  definitions := t.definitions.mapValues (Entry.rename r)
  used := t.used
  containers := t.containers.renameKeys r

/-! ## The names of a term -/

section

variable {r : String → String}

theorem members_renameKeys (injective : Function.Injective r) (containers : Containers)
    (name : String) :
    Containers.members (containers.renameKeys r) (r name) = containers.members name := by
  rw [Containers.members, Registry.get?_renameKeys injective, Containers.members]

theorem accessedName_rename (object : Term) (member : Option String) :
    accessedName (object.rename r) member = accessedName object member := by
  cases object with
  | identifier name loc => cases member <;> rfl
  | _ => rfl

mutual

theorem styleNames_rename (injective : Function.Injective r) (containers : Containers) :
    ∀ t : Term, styleNames (containers.renameKeys r) (t.rename r) = styleNames containers t
  | .identifier name _ => by
      simp only [Term.rename, styleNames]
      exact members_renameKeys injective containers name
  | .member object member _ => by
      simp only [Term.rename, styleNames]
      exact accessedName_rename object member
  | .array elements _ => by
      simp only [Term.rename, styleNames]
      exact styleNamesOfAll_rename injective containers elements
  | .object entries _ => by
      simp only [Term.rename, styleNames]
      exact styleNamesOfEntries_rename injective containers entries
  | .conditional test consequent alternate _ => by
      simp only [Term.rename, styleNames, styleNames_rename injective containers test,
        styleNames_rename injective containers consequent,
        styleNames_rename injective containers alternate]
  | .logical _ left right _ | .binary _ left right _ => by
      simp only [Term.rename, styleNames, styleNames_rename injective containers left,
        styleNames_rename injective containers right]
  | .spread value _ | .property _ value _ | .unary _ value _ | .update _ value _ => by
      simp only [Term.rename, styleNames, styleNames_rename injective containers value]
  | .absent | .other .. | .call .. | .objectPattern .. | .binding .. | .attr .. | .returned ..
  | .assignment .. => by
      simp only [Term.rename, styleNames]

theorem styleNamesOfAll_rename (injective : Function.Injective r) (containers : Containers) :
    ∀ terms : List Term,
      styleNamesOfAll (containers.renameKeys r) (renameAll r terms) = styleNamesOfAll containers terms
  | [] => rfl
  | t :: rest => by
      simp only [renameAll, styleNamesOfAll, styleNames_rename injective containers t,
        styleNamesOfAll_rename injective containers rest]

theorem styleNamesOfEntries_rename (injective : Function.Injective r) (containers : Containers) :
    ∀ entries : List Term,
      styleNamesOfEntries (containers.renameKeys r) (renameAll r entries) =
        styleNamesOfEntries containers entries
  | [] => rfl
  | t :: rest => by
      have later := styleNamesOfEntries_rename injective containers rest
      cases t with
      | property key value loc =>
          simp only [renameAll, Term.rename, styleNamesOfEntries, later,
            styleNames_rename injective containers value]
      | spread argument loc =>
          simp only [renameAll, Term.rename, styleNamesOfEntries, later,
            styleNames_rename injective containers argument]
      | _ => simp only [renameAll, Term.rename, styleNamesOfEntries, later]

end

/-! ## What a site means -/

theorem isStyleFactoryCall_rename (injective : Function.Injective r)
    (kept : r "StyleSheet" = "StyleSheet") (t : Term) :
    (t.rename r).isStyleFactoryCall = t.isStyleFactoryCall := by
  have factory : ∀ name, (r name == "StyleSheet") = (name == "StyleSheet") := by
    intro name
    rw [Bool.eq_iff_iff, beq_iff_eq, beq_iff_eq, ← injective.eq_iff (a := name), kept]
  cases t with
  | call callee arguments loc =>
      cases callee with
      | member object member inner =>
          cases object with
          | identifier name place =>
              cases member with
              | some method => simp [Term.rename, Term.isStyleFactoryCall, factory]
              | none => rfl
          | _ => rfl
      | _ => rfl
  | _ => rfl

theorem definition?_rename (injective : Function.Injective r) (kept : r "StyleSheet" = "StyleSheet")
    (s : Site) :
    Visit.definition? (s.rename r) = (Visit.definition? s).map (Visit.rename r) := by
  cases s with
  | binding target init loc =>
      cases target with
      | identifier name place =>
          have factory := isStyleFactoryCall_rename injective kept init
          cases init with
          | call callee arguments inner =>
              simp only [Term.rename] at factory
              simp only [Site.rename, Term.rename, Visit.definition?, factory]
              split <;> rfl
          | _ => rfl
      | _ => rfl
  | _ => rfl

theorem destructuring?_rename (s : Site) :
    Visit.destructuring? (s.rename r) = (Visit.destructuring? s).map (Visit.rename r) := by
  cases s with
  | binding target init loc =>
      cases target with
      | objectPattern keys place => cases init <;> rfl
      | _ => rfl
  | _ => rfl

theorem isAbsent_rename (t : Term) : (t.rename r).isAbsent = t.isAbsent := by
  cases t <;> rfl

theorem styleAttribute?_rename (s : Site) :
    Visit.styleAttribute? (s.rename r) = (Visit.styleAttribute? s).map (Visit.rename r) := by
  cases s with
  | attr name value loc =>
      cases name with
      | some name =>
          simp only [Site.rename, Visit.styleAttribute?, isAbsent_rename]
          split <;> rfl
      | none => rfl
  | _ => rfl

theorem visit?_rename (injective : Function.Injective r) (kept : r "StyleSheet" = "StyleSheet")
    (s : Site) : (s.rename r).visit? = s.visit?.map (Visit.rename r) := by
  cases s with
  | binding target init loc =>
      have definition := definition?_rename injective kept (.binding target init loc)
      have destructuring := destructuring?_rename (r := r) (.binding target init loc)
      simp only [Site.rename] at definition destructuring
      simp only [Site.rename, Site.visit?, Site.shape, definition, destructuring, Option.map_or]
  | attr name value loc => exact styleAttribute?_rename (.attr name value loc)
  | returned argument loc => rfl
  | assignment operator target value loc => rfl

/-! ## What a visit does -/

theorem definedStyles_rename (terms : List Term) :
    (definedStyles (renameAll r terms)).1 =
      (definedStyles terms).1.map fun member => (member.1, member.2.rename r) := by
  induction terms with
  | nil => rfl
  | cons t rest ih =>
      rw [renameAll]
      cases t with
      | property key value loc =>
          cases key with
          | some key => simp [definedStyles, Term.rename, Term.asEntry, ih, Entry.rename]
          | none => simpa [definedStyles, Term.rename, Term.asEntry] using ih
      | _ => simpa [definedStyles, Term.rename, Term.asEntry] using ih

theorem entries_rename (t : Term) : (t.rename r).entries = renameAll r t.entries := by
  cases t <;> rfl

theorem defineContainer_rename (injective : Function.Injective r) (t : SymbolTable) (name : String)
    (members : List (String × Entry)) :
    (t.rename r).defineContainer (r name)
        (members.map fun member => (member.1, member.2.rename r)) =
      (t.defineContainer name members).rename r := by
  have names : (members.map fun member => (member.1, member.2.rename r)).map (·.1) =
      members.map (·.1) := by
    simp
  simp only [SymbolTable.defineContainer, SymbolTable.rename, names,
    Registry.foldl_put_mapValues, Registry.put_renameKeys injective]

theorem take_rename (injective : Function.Injective r) (t : SymbolTable) (v : Visit) :
    ((t.rename r).take (v.rename r)).1 = (t.take v).1.rename r := by
  cases v with
  | definition container arguments =>
      cases arguments with
      | nil => rfl
      | cons first rest =>
          simp only [Visit.rename, renameAll, SymbolTable.take, entries_rename]
          rw [definedStyles_rename, defineContainer_rename injective]
  | destructuring keys source =>
      have known : (t.rename r).container? (r source) = t.container? source :=
        Registry.get?_renameKeys injective t.containers source
      simp only [Visit.rename, SymbolTable.take, known]
      split <;> rfl
  | usage value =>
      have names := styleNames_rename injective t.containers value
      simp only [Visit.rename, SymbolTable.take, SymbolTable.rename] at names ⊢
      rw [names]
      rfl

theorem takeSite_rename (injective : Function.Injective r) (kept : r "StyleSheet" = "StyleSheet")
    (t : SymbolTable) (s : Site) : (t.rename r).takeSite (s.rename r) = (t.takeSite s).rename r := by
  rw [SymbolTable.takeSite, visit?_rename injective kept, SymbolTable.takeSite]
  cases s.visit? with
  | none => rfl
  | some v => exact take_rename injective t v

theorem takeSites_rename (injective : Function.Injective r) (kept : r "StyleSheet" = "StyleSheet")
    (t : SymbolTable) (sites : List Site) :
    (t.rename r).takeSites (sites.map (Site.rename r)) = (t.takeSites sites).rename r := by
  induction sites generalizing t with
  | nil => rfl
  | cons s rest ih =>
      rw [List.map_cons, SymbolTable.takeSites, List.foldl_cons, takeSite_rename injective kept]
      exact ih (t.takeSite s)

theorem unused_rename (t : SymbolTable) :
    Analyzer.unused (t.rename r) = (Analyzer.unused t).map fun f => ⟨f.name, f.entry.rename r⟩ := by
  simp only [Analyzer.unused, SymbolTable.unusedDefinitions, SymbolTable.allDefinitions,
    SymbolTable.rename, Registry.mapValues, List.filter_map, List.map_map]
  rfl

end

/-! ## Whole runs -/

/-- Hands sites to the listeners of the analyzer one after the other, up to the first failure. -/
def Session.hear (s : Session) : List Site → Outcome Misuse Session
  | [] => ⟨s, none⟩
  | site :: rest =>
      match Walker.deliver site analyzerListeners s with
      | ⟨next, none⟩ => next.hear rest
      | stopped => stopped

/-- A fresh analyzer hears all sites and is then finalized. -/
def analyzeSites (sites : List Site) : Outcome Misuse Session :=
  match Session.fresh.hear sites with
  | ⟨last, none⟩ => ⟨last.finalize, none⟩
  | stopped => stopped

theorem hear_of_traversing {s : Session} {t : SymbolTable} (traversing : s.analyzer = ⟨t, none⟩)
    (sites : List Site) :
    ∃ last, s.hear sites = ⟨last, none⟩ ∧ last.analyzer = ⟨t.takeSites sites, none⟩ := by
  induction sites generalizing s t with
  | nil => exact ⟨s, rfl, traversing⟩
  | cons site rest ih =>
      obtain ⟨next, delivered, taken⟩ := deliver_analyzer traversing site
      obtain ⟨last, heard, reached⟩ := ih taken
      exact ⟨last, by simpa [Session.hear, delivered] using heard, reached⟩

theorem analyzeSites_ok (sites : List Site) :
    ∃ session, analyzeSites sites = ⟨session, none⟩ ∧
      session.analyzer = ⟨SymbolTable.empty.takeSites sites,
        some (Analyzer.unused (SymbolTable.empty.takeSites sites))⟩ := by
  obtain ⟨last, heard, reached⟩ := hear_of_traversing (s := .fresh) (t := .empty) rfl sites
  refine ⟨last.finalize, by rw [analyzeSites, heard], ?_⟩
  simp [Session.finalize, Session.note, Analyzer.finalize, reached]

/-- How a report identifies a finding. -/
def Finding.position (f : Finding) : String × Nat × Nat := (f.name, f.line, f.column)

/-- Two analyzers hold the same styles, in containers whose names differ by `r`. -/
structure Analyzer.RenamedBy (r : String → String) (plain renamed : Analyzer) : Prop where
  used : renamed.symbols.used = plain.symbols.used
  definitions : renamed.symbols.allDefinitions.map (fun style => (style.1, style.2.loc)) =
    plain.symbols.allDefinitions.map fun style => (style.1, style.2.loc)
  findings : ∃ found foundAgain, plain.findings = .ok found ∧ renamed.findings = .ok foundAgain ∧
    foundAgain.map Finding.position = found.map Finding.position
  containers : renamed.symbols.containers.entries =
    plain.symbols.containers.entries.map fun container => (r container.1, container.2)

theorem renamedBy_rename (r : String → String) (t : SymbolTable) :
    Analyzer.RenamedBy r ⟨t, some (Analyzer.unused t)⟩
      ⟨t.rename r, some (Analyzer.unused (t.rename r))⟩ where
  used := rfl
  definitions := by
    simp [SymbolTable.allDefinitions, SymbolTable.rename, Registry.mapValues, Entry.rename]
  findings := by
    refine ⟨_, _, rfl, rfl, ?_⟩
    simp [unused_rename, Finding.position, Finding.line, Finding.column, Entry.rename]
  containers := rfl

theorem identifiers_only_name_containers (r : String → String) (injective : Function.Injective r)
    (kept : r "StyleSheet" = "StyleSheet") (sites : List Site) :
    ∃ plain renamed : Session, analyzeSites sites = ⟨plain, none⟩ ∧
      analyzeSites (sites.map (Site.rename r)) = ⟨renamed, none⟩ ∧
      plain.analyzer.RenamedBy r renamed.analyzer := by
  obtain ⟨plain, analyzed, reached⟩ := analyzeSites_ok sites
  obtain ⟨renamed, analyzedAgain, reachedAgain⟩ := analyzeSites_ok (sites.map (Site.rename r))
  refine ⟨plain, renamed, analyzed, analyzedAgain, ?_⟩
  have tables : SymbolTable.empty.takeSites (sites.map (Site.rename r)) =
      (SymbolTable.empty.takeSites sites).rename r :=
    takeSites_rename injective kept .empty sites
  rw [reached, reachedAgain, tables]
  exact renamedBy_rename r _

namespace Sample

/-- A container `s` with a style of its own name, taken apart, and another name returned. -/
def containerTakenApart : List Site :=
  [.binding (.identifier "s" ⟨1, 7⟩)
      (.call (.member (.identifier "StyleSheet" ⟨1, 11⟩) (some "create") ⟨1, 11⟩)
        [.object [.property (some "box") (.identifier "t" ⟨2, 8⟩) ⟨2, 3⟩,
          .property (some "s") .absent ⟨3, 3⟩] ⟨1, 29⟩] ⟨1, 11⟩) ⟨1, 7⟩,
    .binding (.objectPattern ["box"] ⟨5, 7⟩) (.identifier "s" ⟨5, 17⟩) ⟨5, 7⟩,
    .returned (.identifier "t" ⟨6, 8⟩) ⟨6, 1⟩]

def exchanged : String → String := Equiv.swap "s" "t"

end Sample

open Sample in
theorem identifiers_only_name_containers_sample :
    (analyzeSites containerTakenApart).state.analyzer.symbols.containers.keys = ["s"] ∧
    (analyzeSites (containerTakenApart.map (Site.rename exchanged))).state.analyzer.symbols.containers.keys
      = ["t"] ∧
    Function.Injective exchanged ∧ exchanged "StyleSheet" = "StyleSheet" ∧
    ∃ plain renamed : Session, analyzeSites containerTakenApart = ⟨plain, none⟩ ∧
      analyzeSites (containerTakenApart.map (Site.rename exchanged)) = ⟨renamed, none⟩ ∧
      plain.analyzer.RenamedBy exchanged renamed.analyzer := by
  have injective : Function.Injective exchanged := (Equiv.swap "s" "t").injective
  have kept : exchanged "StyleSheet" = "StyleSheet" := by decide
  exact ⟨by decide, by decide, injective, kept,
    identifiers_only_name_containers exchanged injective kept containerTakenApart⟩

end StyleAudit
