import StyleAudit.Proofs.Preorder

/-!
# An examination is a pass over the sites

With a fresh analyzer registered, a walk hands every site of the tree to the symbol table, in
pre-order, and then fixes the findings (`analyzeTree_eq_unused`). No visit of such a walk is refused:
the analyzer stays unfinalized until the exit action runs.
-/

namespace StyleAudit

open Syntax

/-- The sites of a tree, in pre-order. -/
def Syntax.Node.sites (root : Node) : List Site := root.preorder.filterMap lowerSite?

/-! ## One site -/

/-- The readings through which an analyzer follows a walk, each with the shape it is for. -/
def analyzerReadings : List (Shape × (Site → Option Visit)) :=
  [(.binding, Visit.definition?), (.binding, Visit.destructuring?), (.attr, Visit.styleAttribute?),
    (.returned, Visit.returned?), (.assignment, Visit.assigned?)]

def Site.readAs? (s : Site) (reading : Shape × (Site → Option Visit)) : Option Visit :=
  if reading.1 = s.shape then reading.2 s else none

/-- What a site means to the analyzer. -/
def Site.visit? (s : Site) : Option Visit :=
  match s.shape with
  | .binding => (Visit.definition? s).or (Visit.destructuring? s)
  | .attr => Visit.styleAttribute? s
  | .returned => Visit.returned? s
  | .assignment => Visit.assigned? s

namespace SymbolTable

def takeAll (t : SymbolTable) (visits : List Visit) : SymbolTable :=
  visits.foldl (fun known v => (known.take v).1) t

def takeSite (t : SymbolTable) (s : Site) : SymbolTable := t.takeAll s.visit?.toList

def takeSites (t : SymbolTable) (sites : List Site) : SymbolTable := sites.foldl takeSite t

end SymbolTable

theorem destructuring?_eq_none_of_definition {s : Site} {v : Visit}
    (definition : Visit.definition? s = some v) : Visit.destructuring? s = none := by
  unfold Visit.definition? at definition
  split at definition
  · rfl
  · cases definition

theorem filterMap_readAs? (s : Site) : analyzerReadings.filterMap s.readAs? = s.visit?.toList := by
  cases s with
  | binding target init loc =>
      -- Two readings are for bindings; their targets differ, so at most one of them applies.
      cases definition : Visit.definition? (.binding target init loc) with
      | some v =>
          have apart := destructuring?_eq_none_of_definition definition
          simp [analyzerReadings, Site.readAs?, Site.visit?, Site.shape, definition, apart]
      | none =>
          cases destructuring : Visit.destructuring? (.binding target init loc) <;>
            simp [analyzerReadings, Site.readAs?, Site.visit?, Site.shape, definition, destructuring]
  | attr name value loc =>
      cases reading : Visit.styleAttribute? (.attr name value loc) <;>
        simp [analyzerReadings, Site.readAs?, Site.visit?, Site.shape, reading]
  | returned argument loc => rfl
  | assignment operator target value loc => rfl

theorem follow_of_traversing {s : Session} {t : SymbolTable} (traversing : s.analyzer = ⟨t, none⟩)
    (v : Visit) : ∃ next, s.follow v = ⟨next, none⟩ ∧ next.analyzer = ⟨(t.take v).1, none⟩ := by
  refine ⟨(s.follow v).state, ?_, ?_⟩
  · simp [Session.follow, Analyzer.visit, traversing]
  · simp [Session.follow, Session.note, Analyzer.visit, traversing]

theorem deliver_analyzing_cons_of_unread {reading : Shape × (Site → Option Visit)} {site : Site}
    (unread : site.readAs? reading = none) (rest : List (Listener Misuse Session)) (s : Session) :
    Walker.deliver site (analyzing reading.1 reading.2 :: rest) s = Walker.deliver site rest s := by
  by_cases fits : reading.1 = site.shape
  · simp only [Site.readAs?, fits, if_true] at unread
    simp [Walker.deliver, analyzing, unread]
  · simp [Walker.deliver, analyzing, fits]

theorem deliver_analyzing {s : Session} {t : SymbolTable} (traversing : s.analyzer = ⟨t, none⟩)
    (site : Site) (readings : List (Shape × (Site → Option Visit))) :
    ∃ next, Walker.deliver site (readings.map fun reading => analyzing reading.1 reading.2) s =
        ⟨next, none⟩ ∧
      next.analyzer = ⟨t.takeAll (readings.filterMap site.readAs?), none⟩ := by
  induction readings generalizing s t with
  | nil => exact ⟨s, rfl, traversing⟩
  | cons reading rest ih =>
      cases read : site.readAs? reading with
      | none =>
          obtain ⟨next, delivered, taken⟩ := ih traversing
          refine ⟨next, ?_, ?_⟩
          · rw [List.map_cons, deliver_analyzing_cons_of_unread read, delivered]
          · rw [taken, List.filterMap_cons_none read]
      | some v =>
          obtain ⟨fits, meant⟩ : reading.1 = site.shape ∧ reading.2 site = some v := by
            simpa [Site.readAs?] using read
          obtain ⟨between, followed, first⟩ := follow_of_traversing traversing v
          obtain ⟨next, delivered, taken⟩ := ih first
          refine ⟨next, ?_, ?_⟩
          · simpa [Walker.deliver, analyzing, fits, meant, followed] using delivered
          · rw [taken, List.filterMap_cons_some read]
            rfl

theorem deliver_analyzer {s : Session} {t : SymbolTable} (traversing : s.analyzer = ⟨t, none⟩)
    (site : Site) : ∃ next, Walker.deliver site analyzerListeners s = ⟨next, none⟩ ∧
      next.analyzer = ⟨t.takeSite site, none⟩ := by
  rw [SymbolTable.takeSite, ← filterMap_readAs?]
  exact deliver_analyzing traversing site analyzerReadings

/-! ## All sites -/

theorem feed_of_deliver {w : SessionWalker} {P : SymbolTable → Prop}
    (kept : ∀ {t} site, P t → P (t.takeSite site))
    (delivers : ∀ {s t} site, s.analyzer = ⟨t, none⟩ → P t →
      ∃ next, Walker.deliver site w.listeners s = ⟨next, none⟩ ∧
        next.analyzer = ⟨t.takeSite site, none⟩)
    {s : Session} {t : SymbolTable} (traversing : s.analyzer = ⟨t, none⟩) (holds : P t)
    (nodes : List Node) :
    ∃ last, w.feed nodes s = ⟨last, none⟩ ∧
      last.analyzer = ⟨t.takeSites (nodes.filterMap lowerSite?), none⟩ := by
  induction nodes generalizing s t with
  | nil => exact ⟨s, rfl, traversing⟩
  | cons n rest ih =>
      cases lowered : lowerSite? n with
      | none =>
          obtain ⟨last, fed, taken⟩ := ih traversing holds
          refine ⟨last, ?_, ?_⟩
          · have dispatched : w.dispatch n s = ⟨s, none⟩ := by simp [Walker.dispatch, lowered]
            rw [Walker.feed_cons_of_ok dispatched, fed]
          · rw [taken, List.filterMap_cons_none lowered]
      | some site =>
          obtain ⟨next, delivered, followed⟩ := delivers site traversing holds
          obtain ⟨last, fed, taken⟩ := ih followed (kept site holds)
          refine ⟨last, ?_, ?_⟩
          · have dispatched : w.dispatch n s = ⟨next, none⟩ := by
              simpa [Walker.dispatch, lowered] using delivered
            rw [Walker.feed_cons_of_ok dispatched, fed]
          · rw [taken, List.filterMap_cons_some lowered]
            rfl

theorem feed_analyzer {s : Session} {t : SymbolTable} (traversing : s.analyzer = ⟨t, none⟩)
    (nodes : List Node) :
    ∃ last, (SessionWalker.register Walker.empty).feed nodes s = ⟨last, none⟩ ∧
      last.analyzer = ⟨t.takeSites (nodes.filterMap lowerSite?), none⟩ :=
  feed_of_deliver (P := fun _ => True) (fun _ _ => trivial)
    (fun site traversing _ => deliver_analyzer traversing site) traversing trivial nodes

theorem analyzeTree_eq_unused (root : Node) :
    analyzeTree root = .ok (Analyzer.unused (SymbolTable.empty.takeSites root.sites)) := by
  obtain ⟨last, fed, taken⟩ := feed_analyzer (s := .fresh) (t := .empty) rfl root.preorder
  have examined : examine root = ⟨(last.counted root.preorder.length).finalize, none⟩ :=
    Walker.walk_of_complete fed Session.counted
  have fixed : ((last.counted root.preorder.length).finalize).analyzer.fixed =
      some (Analyzer.unused (SymbolTable.empty.takeSites root.sites)) := by
    simp [Session.finalize, Session.counted, Session.note, Analyzer.finalize, taken, Node.sites]
  simp [analyzeTree, examined, Analyzer.findings, fixed]

end StyleAudit
