import StyleAudit.Proofs.Extraction
import StyleAudit.Proofs.Registry
import StyleAudit.Proofs.Renaming
import StyleAudit.Proofs.UsageOrder

/-!
# Moving and adding usages

A site that declares no container only records names, and whether names are recorded early or late
makes no difference to the sites in between (`takeSites_recordUsages`). So two runs that differ in the
place of a usage end alike unless its names change on the way, and a run with one more usage differs
from the run without it in the recorded names alone.
-/

namespace StyleAudit

/-! ## Recording names -/

namespace SymbolTable

theorem recordUsages_congr (t : SymbolTable) {names others : List String}
    (same : ∀ x, x ∈ names ↔ x ∈ others) : t.recordUsages names = t.recordUsages others := by
  have sets : t.used.insertAll names = t.used.insertAll others := by
    apply NameSet.eq_of_mem_iff
    intro x
    rw [NameSet.mem_insertAll, NameSet.mem_insertAll, same]
  rw [recordUsages, sets, recordUsages]

theorem recordUsages_recordUsages (t : SymbolTable) (first second : List String) :
    (t.recordUsages first).recordUsages second = t.recordUsages (first ++ second) := by
  simp [recordUsages, NameSet.insertAll]

theorem recordUsages_comm (t : SymbolTable) (first second : List String) :
    (t.recordUsages first).recordUsages second = (t.recordUsages second).recordUsages first := by
  rw [recordUsages_recordUsages, recordUsages_recordUsages]
  exact t.recordUsages_congr fun x => by rw [List.mem_append, List.mem_append, or_comm]

theorem takeSite_recordUsages (t : SymbolTable) (names : List String) (s : Site) :
    (t.recordUsages names).takeSite s = (t.takeSite s).recordUsages names := by
  cases declared : s.declaration? with
  | some d =>
      rw [takeSite_of_declaration declared, takeSite_of_declaration declared]
      rfl
  | none =>
      rw [takeSite_of_undeclared declared, takeSite_of_undeclared declared]
      exact t.recordUsages_comm names (s.uses t.containers)

theorem takeSites_recordUsages (t : SymbolTable) (names : List String) (sites : List Site) :
    (t.recordUsages names).takeSites sites = (t.takeSites sites).recordUsages names := by
  induction sites generalizing t with
  | nil => rfl
  | cons s rest ih =>
      show ((t.recordUsages names).takeSite s).takeSites rest =
        ((t.takeSite s).takeSites rest).recordUsages names
      rw [takeSite_recordUsages, ih]

theorem takeSites_append (t : SymbolTable) (first second : List Site) :
    t.takeSites (first ++ second) = (t.takeSites first).takeSites second :=
  List.foldl_append

theorem takeSites_insert {s : Site} (undeclared : s.declaration? = none) (t : SymbolTable)
    (before after : List Site) :
    t.takeSites (before ++ s :: after) =
      (t.takeSites (before ++ after)).recordUsages (s.uses (t.takeSites before).containers) := by
  rw [takeSites_append, takeSites_append, ← takeSites_recordUsages, ← takeSite_of_undeclared undeclared]
  rfl

end SymbolTable

/-! ## What the names of a site depend on -/

namespace Site

/-- The site takes the container apart, whichever styles it takes out. -/
def TakesApart (s : Site) (container : String) : Prop :=
  ∃ keys target place loc,
    s = .binding (.objectPattern keys target) (.identifier container place) loc

def DependsOn (s : Site) (container : String) : Prop :=
  s.HandsOn container ∨ s.TakesApart container

theorem DependsOn.of_way {s : Site} {container style : String} {members : NameSet}
    (way : s.HandsOn container ∧ style ∈ members ∨ s.TakesOut container style) :
    s.DependsOn container := by
  rcases way with ⟨handed, -⟩ | ⟨keys, target, place, loc, shape, -⟩
  · exact .inl handed
  · exact .inr ⟨keys, target, place, loc, shape⟩

theorem declaration?_of_not_definition {s : Site} (other : s.isContainerDefinition = false) :
    s.declaration? = none := by
  cases declared : s.declaration? with
  | none => rfl
  | some d =>
      obtain ⟨target, place, inner, first, rest, loc, outer, rfl, -⟩ :=
        declaration?_inversion declared
      cases other

theorem declaration?_of_styleValue {s : Site} {value : Term} (valued : s.styleValue? = some value) :
    s.declaration? = none := by
  cases s with
  | binding target init loc => cases valued
  | _ => rfl

theorem not_dependsOn_of_styleValue {s : Site} {value : Term} (valued : s.styleValue? = some value)
    (independent : ∀ container, ¬ value.HandsOn container) (container : String) :
    ¬ s.DependsOn container := by
  rintro (⟨same, loc, valued', flow⟩ | ⟨keys, target, place, loc, rfl⟩)
  · obtain rfl := Option.some.inj (valued.symm.trans valued')
    exact independent container ⟨loc, flow⟩
  · cases valued

end Site

theorem uses_subset_of_dependsOn {these those : Containers} {s : Site}
    (same : ∀ container, s.DependsOn container → these.get? container = those.get? container) :
    s.uses these ⊆ s.uses those := by
  intro x used
  rw [mem_uses_iff] at used ⊢
  refine used.imp_right ?_
  rintro ⟨container, members, known, way⟩
  exact ⟨container, members, same container (.of_way way) ▸ known, way⟩

theorem mem_uses_iff_of_dependsOn {these those : Containers} {s : Site}
    (same : ∀ container, s.DependsOn container → these.get? container = those.get? container)
    (x : String) : x ∈ s.uses these ↔ x ∈ s.uses those :=
  ⟨fun used => uses_subset_of_dependsOn same used,
    fun used => uses_subset_of_dependsOn (fun container needed => (same container needed).symm) used⟩

/-! ## Moving a usage -/

namespace SymbolTable

theorem takeSites_moved {s : Site} (undeclared : s.declaration? = none)
    (independent : ∀ container, ¬ s.DependsOn container) (t : SymbolTable)
    {before after before' after' : List Site} (rest : before ++ after = before' ++ after') :
    t.takeSites (before ++ s :: after) = t.takeSites (before' ++ s :: after') := by
  rw [takeSites_insert undeclared, takeSites_insert undeclared, rest]
  apply recordUsages_congr
  exact mem_uses_iff_of_dependsOn fun container needed => absurd needed (independent container)

theorem takeSite_comm_of_undeclared {s other : Site} (undeclared : s.declaration? = none)
    (undeclared' : other.declaration? = none) (t : SymbolTable) :
    (t.takeSite s).takeSite other = (t.takeSite other).takeSite s := by
  rw [takeSite_of_undeclared undeclared t, takeSite_recordUsages, takeSite_of_undeclared undeclared',
    takeSite_of_undeclared undeclared]
  rfl

theorem get?_containers_takeSite {d : Site} {container other : String} {arguments : List Term}
    (definition : Visit.definition? d = some (.definition container arguments))
    (apart : container ≠ other) (t : SymbolTable) :
    (t.takeSite d).containers.get? other = t.containers.get? other := by
  obtain ⟨name, target, place, inner, arguments', loc, outer, rfl, meant⟩ :=
    definition?_inversion definition
  obtain ⟨rfl, rfl⟩ := Visit.definition.inj meant
  cases arguments with
  | nil => rfl
  | cons first rest =>
      rw [takeSite_of_declaration rfl]
      exact (Registry.get?_put ..).trans (if_neg apart)

theorem takeSite_comm_of_definition {s d : Site} {container : String} {arguments : List Term}
    (undeclared : s.declaration? = none)
    (definition : Visit.definition? d = some (.definition container arguments))
    (independent : ¬ s.DependsOn container) (t : SymbolTable) :
    (t.takeSite s).takeSite d = (t.takeSite d).takeSite s := by
  rw [takeSite_of_undeclared undeclared, takeSite_recordUsages, takeSite_of_undeclared undeclared]
  apply recordUsages_congr
  refine mem_uses_iff_of_dependsOn fun other needed => ?_
  have apart : container ≠ other := fun same => independent (same ▸ needed)
  exact (get?_containers_takeSite definition apart t).symm

theorem takeSites_swap {s other : Site}
    (commutes : ∀ t : SymbolTable, (t.takeSite s).takeSite other = (t.takeSite other).takeSite s)
    (t : SymbolTable) (before after : List Site) :
    t.takeSites (before ++ s :: other :: after) = t.takeSites (before ++ other :: s :: after) := by
  rw [takeSites_append, takeSites_append]
  exact congrArg (fun reached => takeSites reached after) (commutes (t.takeSites before))

end SymbolTable

/-- Fresh analyzers hear both lists to the end and are then the same: definitions in their order,
containers, used names and findings. -/
def SameAnalysis (these those : List Site) : Prop :=
  ∃ (one other : Session) (symbols : SymbolTable) (found : List Finding),
    analyzeSites these = ⟨one, none⟩ ∧ analyzeSites those = ⟨other, none⟩ ∧
    one.analyzer = ⟨symbols, some found⟩ ∧ other.analyzer = ⟨symbols, some found⟩

theorem sameAnalysis_of_takeSites_eq {these those : List Site}
    (tables : SymbolTable.empty.takeSites these = SymbolTable.empty.takeSites those) :
    SameAnalysis these those := by
  obtain ⟨one, analyzed, reached⟩ := analyzeSites_ok these
  obtain ⟨other, analyzedToo, reachedToo⟩ := analyzeSites_ok those
  rw [← tables] at reachedToo
  exact ⟨one, other, _, _, analyzed, analyzedToo, reached, reachedToo⟩

theorem independent_usages_move :
    (∀ (s : Site) (value : Term) (before after before' after' : List Site),
      s.styleValue? = some value → (∀ container, ¬ value.HandsOn container) →
      before ++ after = before' ++ after' →
      SameAnalysis (before ++ s :: after) (before' ++ s :: after')) ∧
    (∀ (s other : Site) (before after : List Site),
      s.isContainerDefinition = false → other.isContainerDefinition = false →
      SameAnalysis (before ++ s :: other :: after) (before ++ other :: s :: after)) ∧
    (∀ (s d : Site) (container : String) (arguments : List Term) (before after : List Site),
      s.isContainerDefinition = false →
      Visit.definition? d = some (.definition container arguments) → ¬ s.DependsOn container →
      SameAnalysis (before ++ s :: d :: after) (before ++ d :: s :: after)) := by
  refine ⟨?_, ?_, ?_⟩
  · intro s value before after before' after' valued independent rest
    apply sameAnalysis_of_takeSites_eq
    exact SymbolTable.takeSites_moved (Site.declaration?_of_styleValue valued)
      (Site.not_dependsOn_of_styleValue valued independent) .empty rest
  · intro s other before after usage usage'
    have undeclared := Site.declaration?_of_not_definition usage
    have undeclared' := Site.declaration?_of_not_definition usage'
    apply sameAnalysis_of_takeSites_eq
    exact SymbolTable.takeSites_swap (SymbolTable.takeSite_comm_of_undeclared undeclared undeclared')
      .empty before after
  · intro s d container arguments before after usage definition independent
    have undeclared := Site.declaration?_of_not_definition usage
    apply sameAnalysis_of_takeSites_eq
    exact SymbolTable.takeSites_swap
      (SymbolTable.takeSite_comm_of_definition undeclared definition independent) .empty before after

namespace Sample

def accessed : Term := .member (.identifier "t" ⟨2, 8⟩) (some "box") ⟨2, 8⟩

def accessSite : Site := .returned accessed ⟨2, 1⟩

def handingOther : Site := .returned (.identifier "t" ⟨3, 8⟩) ⟨3, 1⟩

theorem not_handsOn_accessed (container : String) : ¬ accessed.HandsOn container := by
  rintro ⟨loc, flow⟩
  rcases Relation.ReflTransGen.cases_head flow with equal | ⟨u, step, -⟩
  · cases equal
  · cases step

theorem not_dependsOn_handingOther : ¬ handingOther.DependsOn "s" := by
  rintro (⟨value, loc, valued, flow⟩ | ⟨keys, target, place, loc, shape⟩)
  · obtain rfl := Option.some.inj valued
    rcases Relation.ReflTransGen.cases_head flow with equal | ⟨u, step, -⟩
    · exact absurd (Term.identifier.inj equal).1 (by decide)
    · cases step
  · cases shape

end Sample

open Sample in
theorem independent_usages_move_sample :
    (∀ container, ¬ accessed.HandsOn container) ∧ ¬ handingOther.DependsOn "s" ∧
    SameAnalysis [accessSite, sheetSite, handingSite] [sheetSite, handingSite, accessSite] ∧
    SameAnalysis [sheetSite, takingSite, handingSite] [sheetSite, handingSite, takingSite] ∧
    SameAnalysis [handingOther, sheetSite] [sheetSite, handingOther] := by
  obtain ⟨moved, swapped, crossed⟩ := independent_usages_move
  refine ⟨not_handsOn_accessed, not_dependsOn_handingOther, ?_, ?_, ?_⟩
  · exact moved accessSite accessed [] [sheetSite, handingSite] [sheetSite, handingSite] [] rfl
      not_handsOn_accessed rfl
  · exact swapped takingSite handingSite [sheetSite] [] rfl rfl
  · exact crossed handingOther sheetSite "s" _ [] [] rfl rfl not_dependsOn_handingOther

open Sample in
-- Taking the sheet apart depends on it: that site does not cross the sheet.
example : (SymbolTable.empty.takeSites [takingSite, sheetSite]).used.names = [] ∧
    (SymbolTable.empty.takeSites [sheetSite, takingSite]).used.names = ["box"] := by decide

/-! ## Adding a usage -/

/-- Two analyzers agree but for used names, and for findings that the first has lost by them. -/
structure Analyzer.UsesMoreThan (more fewer : Analyzer) : Prop where
  definitions : more.symbols.definitions = fewer.symbols.definitions
  containers : more.symbols.containers = fewer.symbols.containers
  used : ∀ x ∈ fewer.symbols.used, x ∈ more.symbols.used
  findings : ∃ left found, more.findings = .ok left ∧ fewer.findings = .ok found ∧ left.Sublist found

theorem unused_recordUsages_sublist (t : SymbolTable) (names : List String) :
    (Analyzer.unused (t.recordUsages names)).Sublist (Analyzer.unused t) := by
  apply List.Sublist.map
  apply List.monotone_filter_right
  intro style unused
  have unnamed : style.1 ∉ (t.recordUsages names).used := by
    simpa [SymbolTable.isUsed] using unused
  have unnamed' : style.1 ∉ t.used := fun used => unnamed (NameSet.mem_insertAll.2 (.inr used))
  simpa [SymbolTable.isUsed] using unnamed'

theorem added_usage_adds_no_finding (before after : List Site) (s : Site)
    (usage : s.isContainerDefinition = false) :
    ∃ shorter longer : Session, analyzeSites (before ++ after) = ⟨shorter, none⟩ ∧
      analyzeSites (before ++ s :: after) = ⟨longer, none⟩ ∧
      longer.analyzer.UsesMoreThan shorter.analyzer := by
  obtain ⟨shorter, analyzed, reached⟩ := analyzeSites_ok (before ++ after)
  obtain ⟨longer, analyzedToo, reachedToo⟩ := analyzeSites_ok (before ++ s :: after)
  refine ⟨shorter, longer, analyzed, analyzedToo, ?_⟩
  have undeclared := Site.declaration?_of_not_definition usage
  rw [reached, reachedToo, SymbolTable.takeSites_insert undeclared]
  constructor
  · rfl
  · rfl
  · intro x used
    exact NameSet.mem_insertAll.2 (.inr used)
  · exact ⟨_, _, rfl, rfl, unused_recordUsages_sublist _ _⟩

open Sample in
theorem added_usage_adds_no_finding_sample :
    takingSite.isContainerDefinition = false ∧
    (Analyzer.unused (SymbolTable.empty.takeSites [sheetSite])).map (·.name) = ["box"] ∧
    (Analyzer.unused (SymbolTable.empty.takeSites [sheetSite, takingSite])).map (·.name) = [] ∧
    ∃ shorter longer : Session, analyzeSites [sheetSite] = ⟨shorter, none⟩ ∧
      analyzeSites [sheetSite, takingSite] = ⟨longer, none⟩ ∧
      longer.analyzer.UsesMoreThan shorter.analyzer :=
  ⟨rfl, by decide, by decide, added_usage_adds_no_finding [sheetSite] [] takingSite rfl⟩

end StyleAudit
