import StyleAudit.Proofs.Reading

/-!
# Usages of a container above and below its declaration

A member access names its style by itself and counts wherever it stands. A container that is handed
on as a whole or taken apart counts only below its declaration, since the table is asked for the
container when the usage is met. The main statement gives the exact condition under which a style of
a container that is declared once goes unreported.
-/

namespace StyleAudit

open Syntax

/-! ## Ways to use a style -/

namespace Site

/-- The site refers to the style by a member access. -/
def NamesMember (s : Site) (style : String) : Prop :=
  ∃ value object place loc, s.styleValue? = some value ∧ style ≠ "" ∧
    value.Flows (.member (.identifier object place) (some style) loc)

/-- The site uses a container as a whole. -/
def HandsOn (s : Site) (container : String) : Prop :=
  ∃ value loc, s.styleValue? = some value ∧ value.Flows (.identifier container loc)

/-- The site takes a style out of a container. -/
def TakesOut (s : Site) (container style : String) : Prop :=
  ∃ keys target place loc,
    s = .binding (.objectPattern keys target) (.identifier container place) loc ∧ style ∈ keys

end Site

theorem mem_taken_iff {scope : Containers} {keys : List String} {source x : String} :
    (x ∈ if scope.contains source then keys else []) ↔
      (∃ members, scope.get? source = some members) ∧ x ∈ keys := by
  rw [Registry.contains]
  cases scope.get? source <;> simp

theorem mem_uses_iff {scope : Containers} {s : Site} {x : String} :
    x ∈ s.uses scope ↔ s.NamesMember x ∨
      ∃ container members, scope.get? container = some members ∧
        (s.HandsOn container ∧ x ∈ members ∨ s.TakesOut container x) := by
  cases valued : s.styleValue? with
  | some value =>
      rw [uses_of_styleValue valued, mem_styleNames_iff_access_or_container]
      constructor
      · rintro (⟨object, place, loc, filled, flow⟩ | ⟨container, members, loc, known, member, flow⟩)
        · exact .inl ⟨value, object, place, loc, valued, filled, flow⟩
        · exact .inr ⟨container, members, known, .inl ⟨⟨value, loc, valued, flow⟩, member⟩⟩
      · rintro (⟨other, object, place, loc, same, filled, flow⟩ |
          ⟨container, members, known, ⟨⟨other, loc, same, flow⟩, member⟩ | ⟨_, _, _, _, rfl, _⟩⟩)
        · obtain rfl := Option.some.inj (valued.symm.trans same)
          exact .inl ⟨object, place, loc, filled, flow⟩
        · obtain rfl := Option.some.inj (valued.symm.trans same)
          exact .inr ⟨container, members, loc, known, member, flow⟩
        · cases valued
  | none =>
      constructor
      · intro used
        unfold Site.uses at used
        split at used
        · rename_i keys target source place loc
          obtain ⟨⟨members, known⟩, key⟩ := mem_taken_iff.1 used
          exact .inr ⟨source, members, known, .inr ⟨keys, target, place, loc, rfl, key⟩⟩
        · rw [valued] at used
          cases used
      · rintro (⟨_, _, _, _, same, _⟩ |
          ⟨container, members, known, ⟨⟨_, _, same, _⟩, _⟩ | ⟨keys, target, place, loc, rfl, key⟩⟩)
        · rw [valued] at same
          cases same
        · rw [valued] at same
          cases same
        · exact mem_taken_iff.2 ⟨⟨members, known⟩, key⟩

/-! ## Containers declared once -/

/-- Of all sites only `s` declares the container of `d`. -/
structure DeclaredOnce (sites before : List Site) (s : Site) (d : Declaration)
    (after : List Site) : Prop where
  split : sites = before ++ s :: after
  declared : s.declaration? = some d
  above : ∀ other ∈ before, ∀ e, other.declaration? = some e → e.container ≠ d.container
  below : ∀ other ∈ after, ∀ e, other.declaration? = some e → e.container ≠ d.container

theorem get?_scopeAfter_append {container : String} {later : List Site}
    (silent : ∀ s ∈ later, ∀ d, s.declaration? = some d → d.container ≠ container)
    (sites : List Site) :
    (scopeAfter (sites ++ later)).get? container = (scopeAfter sites).get? container := by
  induction later generalizing sites with
  | nil => rw [List.append_nil]
  | cons s rest ih =>
      rw [← List.singleton_append, ← List.append_assoc,
        ih (fun other member => silent other (List.mem_cons_of_mem _ member))]
      cases declared : s.declaration? with
      | none => rw [scopeAfter_concat_of_undeclared declared]
      | some d =>
          rw [scopeAfter_concat_of_declaration declared,
            if_neg (silent s List.mem_cons_self d declared)]

theorem get?_scopeAfter_of_silent {container : String} {sites : List Site}
    (silent : ∀ s ∈ sites, ∀ d, s.declaration? = some d → d.container ≠ container) :
    (scopeAfter sites).get? container = none := by
  rw [← List.nil_append sites, get?_scopeAfter_append silent]
  rfl

namespace DeclaredOnce

variable {sites before after : List Site} {s : Site} {d : Declaration}

theorem get?_of_above (once : DeclaredOnce sites before s d after) {first : List Site}
    (part : ∀ other ∈ first, other ∈ before) :
    (scopeAfter first).get? d.container = none :=
  get?_scopeAfter_of_silent fun other member => once.above other (part other member)

theorem get?_of_below (once : DeclaredOnce sites before s d after) {middle : List Site}
    (part : ∀ other ∈ middle, other ∈ after) :
    (scopeAfter (before ++ s :: middle)).get? d.container =
      some (.ofList (d.members.map (·.1))) := by
  rw [← List.singleton_append, ← List.append_assoc,
    get?_scopeAfter_append fun other member => once.below other (part other member),
    scopeAfter_concat_of_declaration once.declared, if_pos rfl]

end DeclaredOnce

theorem append_cons_positions {α : Type} {before after first last : List α} {a b : α}
    (same : before ++ a :: after = first ++ b :: last) :
    (∃ middle, first = before ++ a :: middle ∧ after = middle ++ b :: last) ∨
      (first = before ∧ b = a) ∨ ∃ middle, before = first ++ b :: middle := by
  rcases List.append_eq_append_iff.1 same with ⟨rest, rfl, tail⟩ | ⟨rest, rfl, tail⟩
  · cases rest with
    | nil =>
        rw [List.nil_append, List.cons.injEq] at tail
        exact .inr (.inl ⟨List.append_nil _, tail.1.symm⟩)
    | cons c middle =>
        rw [List.cons_append, List.cons.injEq] at tail
        obtain ⟨rfl, tail⟩ := tail
        exact .inl ⟨middle, rfl, tail⟩
  · cases rest with
    | nil =>
        rw [List.nil_append, List.cons.injEq] at tail
        exact .inr (.inl ⟨(List.append_nil _).symm, tail.1⟩)
    | cons c middle =>
        rw [List.cons_append, List.cons.injEq] at tail
        obtain ⟨rfl, -⟩ := tail
        exact .inr (.inr ⟨middle, rfl⟩)

/-- Some site uses the style without the container. -/
def UsedBeside (sites : List Site) (container style : String) : Prop :=
  ∃ before s after, sites = before ++ s :: after ∧ (s.NamesMember style ∨
    ∃ other members, other ≠ container ∧ (scopeAfter before).get? other = some members ∧
      (s.HandsOn other ∧ style ∈ members ∨ s.TakesOut other style))

theorem UsedBeside.mem_usedNames {sites : List Site} {container style : String}
    (beside : UsedBeside sites container style) : style ∈ usedNames sites := by
  obtain ⟨before, s, after, split, used⟩ := beside
  refine mem_usedNames_iff.2 ⟨before, s, after, split, mem_uses_iff.2 ?_⟩
  rcases used with access | ⟨other, members, -, known, way⟩
  · exact .inl access
  · exact .inr ⟨other, members, known, way⟩

namespace DeclaredOnce

variable {sites before after : List Site} {s : Site} {d : Declaration} {style : String}

theorem mem_usedNames_of_below (once : DeclaredOnce sites before s d after)
    (member : style ∈ d.members.map (·.1)) {u : Site} (below : u ∈ after)
    (used : u.HandsOn d.container ∨ u.TakesOut d.container style) : style ∈ usedNames sites := by
  obtain ⟨middle, last, rfl⟩ := List.append_of_mem below
  refine mem_usedNames_iff.2 ⟨before ++ s :: middle, u, last, ?_, mem_uses_iff.2 (.inr ?_)⟩
  · rw [once.split, List.append_assoc, List.cons_append]
  · refine ⟨d.container, _, once.get?_of_below fun other => List.mem_append_left _, ?_⟩
    rcases used with handed | taken
    · exact .inl ⟨handed, NameSet.mem_ofList.2 member⟩
    · exact .inr taken

theorem below_or_beside (once : DeclaredOnce sites before s d after)
    (used : style ∈ usedNames sites) :
    (∃ u ∈ after, u.HandsOn d.container ∨ u.TakesOut d.container style) ∨
      UsedBeside sites d.container style := by
  obtain ⟨first, u, last, split, used⟩ := mem_usedNames_iff.1 used
  rcases mem_uses_iff.1 used with access | ⟨container, members, known, way⟩
  · exact .inr ⟨first, u, last, split, .inl access⟩
  · by_cases same : container = d.container
    · subst same
      rcases append_cons_positions (once.split.symm.trans split) with
        ⟨middle, -, rfl⟩ | ⟨rfl, rfl⟩ | ⟨middle, rfl⟩
      · refine .inl ⟨u, List.mem_append_right _ List.mem_cons_self, ?_⟩
        exact way.imp And.left id
      · -- The declaration itself uses nothing.
        rw [uses_of_declaration once.declared] at used
        cases used
      · -- Above the declaration the container is not known.
        rw [once.get?_of_above fun other => List.mem_append_left _] at known
        cases known
    · exact .inr ⟨first, u, last, split, .inr ⟨container, members, same, known, way⟩⟩

end DeclaredOnce

/-! ## When a style of a container goes unreported -/

theorem container_style_unreported_iff {root : Node} {before after : List Site} {s : Site}
    {d : Declaration} {style : String} (once : DeclaredOnce root.sites before s d after)
    (member : style ∈ d.members.map (·.1)) :
    ∃ findings, analyzeTree root = .ok findings ∧ ((∀ f ∈ findings, f.name ≠ style) ↔
      (∃ u ∈ after, u.HandsOn d.container ∨ u.TakesOut d.container style) ∨
        UsedBeside root.sites d.container style) := by
  obtain ⟨findings, analyzed, reported⟩ := analyzeTree_reports root
  have declared : style ∈ (root.sites.flatMap Site.members).map (·.1) := by
    have members : s.members = d.members := by simp [Site.members, once.declared]
    rw [once.split, List.flatMap_append, List.flatMap_cons, members]
    simp only [List.map_append, List.mem_append]
    exact .inr (.inl member)
  have unreported : (∀ f ∈ findings, f.name ≠ style) ↔ style ∈ usedNames root.sites := by
    constructor
    · intro absent
      by_contra unused
      obtain ⟨f, found, same⟩ := (reported style).2 ⟨declared, unused⟩
      exact absent f found same
    · intro used f found same
      exact ((reported style).1 ⟨f, found, same⟩).2 used
  refine ⟨findings, analyzed, unreported.trans ⟨once.below_or_beside, ?_⟩⟩
  rintro (⟨u, below, used⟩ | beside)
  · exact once.mem_usedNames_of_below member below used
  · exact beside.mem_usedNames

namespace Sample

def sheetSite : Site :=
  .binding (.identifier "s" ⟨1, 1⟩) (.call
    (.member (.identifier "StyleSheet" ⟨1, 1⟩) (some "create") ⟨1, 1⟩)
    [.object [.property (some "box") (.object [] ⟨1, 1⟩) ⟨1, 1⟩] ⟨1, 1⟩] ⟨1, 1⟩) ⟨1, 1⟩

def boxDeclaration : Declaration :=
  ⟨"s", [("box", ⟨some "box", .object [] ⟨1, 1⟩, ⟨1, 1⟩⟩)]⟩

/-- The tree of `{ box } = s` in a declaration. -/
def taking : Node :=
  tree "variable_declarator" [
    (tree "object_pattern" [word "shorthand_property_identifier_pattern" [0x62, 0x6f, 0x78]]).filling
      "name",
    (word "identifier" [0x73]).filling "value"]

def takingSite : Site :=
  .binding (.objectPattern ["box"] ⟨1, 1⟩) (.identifier "s" ⟨1, 1⟩) ⟨1, 1⟩

/-- The tree of `return s`. -/
def handing : Node := tree "return_statement" [word "identifier" [0x73]]

def handingSite : Site := .returned (.identifier "s" ⟨1, 1⟩) ⟨1, 1⟩

end Sample

open Sample in
/-- The container is taken apart above its declaration and handed on below. -/
theorem container_style_unreported_sample :
    DeclaredOnce (tree "program" [taking, sheet, handing]).sites [takingSite] sheetSite
        boxDeclaration [handingSite] ∧
      ∃ findings, analyzeTree (tree "program" [taking, sheet, handing]) = .ok findings ∧
        ∀ f ∈ findings, f.name ≠ "box" := by
  have once : DeclaredOnce (tree "program" [taking, sheet, handing]).sites [takingSite] sheetSite
      boxDeclaration [handingSite] := by
    refine ⟨rfl, rfl, ?_, ?_⟩
    · intro other member e declared
      rw [List.mem_singleton.1 member] at declared
      cases declared
    · intro other member e declared
      rw [List.mem_singleton.1 member] at declared
      cases declared
  obtain ⟨findings, analyzed, unreported⟩ :=
    container_style_unreported_iff once (List.mem_singleton.2 rfl)
  refine ⟨once, findings, analyzed, unreported.2 (.inl ⟨handingSite, List.mem_singleton.2 rfl, ?_⟩)⟩
  exact .inl ⟨.identifier "s" ⟨1, 1⟩, ⟨1, 1⟩, rfl, .refl⟩

open Sample in
/-- A usage above the only declaration of its container need not keep a style from being reported. -/
theorem container_usage_above_reported :
    ¬ ∀ (root : Node) (before after : List Site) (s : Site) (d : Declaration) (style : String),
      DeclaredOnce root.sites before s d after → style ∈ d.members.map (·.1) →
      (∃ u ∈ before ++ after, u.HandsOn d.container ∨ u.TakesOut d.container style) →
      ∃ findings, analyzeTree root = .ok findings ∧ ∀ f ∈ findings, f.name ≠ style := by
  intro claim
  have once : DeclaredOnce (tree "program" [taking, sheet]).sites [takingSite] sheetSite
      boxDeclaration [] := by
    refine ⟨rfl, rfl, ?_, fun _ member => by cases member⟩
    intro other member e declared
    rw [List.mem_singleton.1 member] at declared
    cases declared
  obtain ⟨findings, analyzed, unreported⟩ := claim _ _ _ _ _ "box" once (List.mem_singleton.2 rfl)
    ⟨takingSite, List.mem_singleton.2 rfl, .inr ⟨_, _, _, _, rfl, List.mem_singleton.2 rfl⟩⟩
  have names : (Analyzer.unused (SymbolTable.empty.takeSites
      (tree "program" [taking, sheet]).sites)).map (·.name) = ["box"] := by decide
  rw [analyzeTree_eq_unused, Except.ok.injEq] at analyzed
  rw [analyzed] at names
  obtain ⟨f, found, same⟩ := List.mem_map.1 (names ▸ List.mem_singleton.2 rfl)
  exact unreported f found same

end StyleAudit
