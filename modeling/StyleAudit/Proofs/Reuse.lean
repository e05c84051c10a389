import StyleAudit.Proofs.Calls

/-!
# Walking again with a finalized analyzer

A walker carries one analyzer and any number of recorders, registered above and below it. After a walk
that ended well the analyzer is finalized; another walk ends well exactly if no site of its tree
concerns the analyzer. Otherwise it stops at the first such site: what the recorders have seen by then
is a beginning of what they would see without an analyzer, and neither the exit actions nor the count
of nodes are reached. The analyzer is the same after both.
-/

namespace StyleAudit

open Syntax

/-! ## Recorders -/

/-- What records the sites it hears of, or the end of a walk. -/
inductive Recorder where
  | site (id : String) (shape : Shape) (condition : Option (Site → Bool))
  | exit (id : String)

namespace Recorder

def registration : Recorder → Registration Misuse Session
  | site id shape condition =>
      .on shape (fun heard session => ⟨session.record (.site id heard), none⟩) condition
  | exit id => .onExit fun session => session.record (.exit id)

def siteEvent? (heard : Site) : Recorder → Option Event
  | site id shape condition =>
      if shape = heard.shape && condition.all fun test => test heard then some (.site id heard) else none
  | exit _ => none

def exitEvent? : Recorder → Option Event
  | site .. => none
  | exit id => some (.exit id)

end Recorder

def heardAt (recorders : List Recorder) (site : Site) : List Event :=
  recorders.filterMap (Recorder.siteEvent? site)

def heardIn (recorders : List Recorder) (sites : List Site) : List Event :=
  sites.flatMap (heardAt recorders)

def heardAtExit (recorders : List Recorder) : List Event :=
  recorders.filterMap Recorder.exitEvent?

def Session.recordAll (s : Session) (events : List Event) : Session :=
  { s with events := s.events ++ events }

namespace Session

@[simp] theorem recordAll_nil (s : Session) : s.recordAll [] = s := by
  simp [recordAll]

@[simp] theorem recordAll_recordAll (s : Session) (first second : List Event) :
    (s.recordAll first).recordAll second = s.recordAll (first ++ second) := by
  simp [recordAll]

end Session

theorem neverFails_recorders (recorders : List Recorder) :
    ∀ r ∈ recorders.map Recorder.registration, r.NeverFails := by
  intro r member
  obtain ⟨recorder, -, rfl⟩ := List.mem_map.1 member
  cases recorder with
  | site id shape condition => exact fun _ _ => rfl
  | exit id => trivial

theorem tell_recorder (recorder : Recorder) (site : Site) (session : Session) :
    recorder.registration.tell site session =
      session.recordAll (recorder.siteEvent? site).toList := by
  cases recorder with
  | site id shape condition =>
      by_cases heard : (Recorder.site id shape condition).registration.hears site = true
      · have told : (Recorder.site id shape condition).registration.tell site session =
            session.record (.site id site) := if_pos heard
        have event : (Recorder.site id shape condition).siteEvent? site = some (.site id site) :=
          if_pos heard
        rw [told, event]
        rfl
      · have passed : (Recorder.site id shape condition).registration.tell site session = session :=
          if_neg heard
        have event : (Recorder.site id shape condition).siteEvent? site = none := if_neg heard
        rw [passed, event]
        exact session.recordAll_nil.symm
  | exit id => exact session.recordAll_nil.symm

theorem leave_recorder (recorder : Recorder) (session : Session) :
    recorder.registration.leave session = session.recordAll recorder.exitEvent?.toList := by
  cases recorder with
  | site id shape condition => exact session.recordAll_nil.symm
  | exit id => rfl

theorem tellAll_recording (recorders : List Recorder) (session : Session) (site : Site) :
    tellAll (recorders.map Recorder.registration) session site =
      session.recordAll (heardAt recorders site) := by
  induction recorders generalizing session with
  | nil => simp [tellAll, heardAt]
  | cons recorder rest ih =>
      simp only [tellAll, heardAt] at ih ⊢
      rw [List.map_cons, List.foldl_cons, tell_recorder, ih, Session.recordAll_recordAll]
      cases heard : recorder.siteEvent? site <;> simp [heard]

theorem foldl_leave_recording (recorders : List Recorder) (session : Session) :
    (recorders.map Recorder.registration).foldl Registration.leave session =
      session.recordAll (heardAtExit recorders) := by
  induction recorders generalizing session with
  | nil => simp [heardAtExit]
  | cons recorder rest ih =>
      simp only [heardAtExit] at ih ⊢
      rw [List.map_cons, List.foldl_cons, leave_recorder, ih, Session.recordAll_recordAll]
      cases heard : recorder.exitEvent? <;> simp [heard]

theorem foldl_tellAll_recording (recorders : List Recorder) (sites : List Site) (session : Session) :
    sites.foldl (tellAll (recorders.map Recorder.registration)) session =
      session.recordAll (heardIn recorders sites) := by
  induction sites generalizing session with
  | nil => simp [heardIn]
  | cons site rest ih =>
      rw [List.foldl_cons, ih, tellAll_recording, Session.recordAll_recordAll]
      rfl

/-- What recorders see of a tree on a walk of their own. -/
def recordedAlone (recorders : List Recorder) (root : Node) : List Event :=
  ((Walker.ofRegistrations (recorders.map Recorder.registration)).walk
    Session.counted root .fresh).state.events

theorem recordedAlone_eq (recorders : List Recorder) (root : Node) :
    recordedAlone recorders root = heardIn recorders root.sites ++ heardAtExit recorders := by
  rw [recordedAlone, walk_eq_tellAll (neverFails_recorders recorders), foldl_tellAll_recording,
    foldl_leave_recording]
  rfl

/-! ## Sites that concern the analyzer -/

def Site.concernsAnalyzer : Site → Bool
  | .returned .. => true
  | .assignment .. => true
  | .attr name value loc => (attr name value loc).isStyleAttribute
  | .binding (.objectPattern ..) (.identifier ..) _ => true
  | .binding target init loc => (binding target init loc).isContainerDefinition

theorem isSome_visit? (s : Site) : s.visit?.isSome = s.concernsAnalyzer := by
  cases s with
  | binding target init loc =>
      cases target with
      | objectPattern keys place => cases init <;> rfl
      | _ => simp [Site.visit?, Site.shape, Visit.destructuring?, Site.concernsAnalyzer,
          Site.isContainerDefinition]
  | _ => rfl

theorem follow_of_finalized {s : Session} {found : List Finding}
    (finalized : s.analyzer.fixed = some found) (v : Visit) :
    s.follow v = ⟨s, some .alreadyFinalized⟩ := by
  simp [Session.follow, Session.note, Analyzer.visit, finalized]

theorem deliver_analyzing_of_finalized {s : Session} {found : List Finding}
    (finalized : s.analyzer.fixed = some found) (site : Site)
    (readings : List (Shape × (Site → Option Visit))) :
    Walker.deliver site (readings.map fun reading => analyzing reading.1 reading.2) s =
      ⟨s, if (readings.filterMap site.readAs?).isEmpty then none else some .alreadyFinalized⟩ := by
  induction readings with
  | nil => rfl
  | cons reading rest ih =>
      cases read : site.readAs? reading with
      | none =>
          rw [List.map_cons, deliver_analyzing_cons_of_unread read, ih,
            List.filterMap_cons_none read]
      | some v =>
          obtain ⟨fits, meant⟩ : reading.1 = site.shape ∧ reading.2 site = some v := by
            simpa [Site.readAs?] using read
          simp [Walker.deliver, analyzing, fits, meant, follow_of_finalized finalized,
            List.filterMap_cons_some read]

theorem deliver_finalized {s : Session} {found : List Finding}
    (finalized : s.analyzer.fixed = some found) (site : Site) :
    Walker.deliver site analyzerListeners s =
      ⟨s, if site.concernsAnalyzer then some .alreadyFinalized else none⟩ := by
  have delivered := deliver_analyzing_of_finalized finalized site analyzerReadings
  rw [filterMap_readAs?] at delivered
  refine delivered.trans ?_
  rw [← isSome_visit?]
  cases site.visit? <;> rfl

/-! ## One analyzer among recorders -/

def sharedWalker (above below : List Recorder) : SessionWalker :=
  (below.map Recorder.registration).foldl Walker.register
    (SessionWalker.register (Walker.ofRegistrations (above.map Recorder.registration)))

section

variable (above below : List Recorder) {s : Session} {found : List Finding}

theorem listeners_sharedWalker :
    (sharedWalker above below).listeners =
      (above.map Recorder.registration).filterMap Registration.listener? ++ (analyzerListeners ++
        (below.map Recorder.registration).filterMap Registration.listener?) := by
  simp [sharedWalker, Walker.foldl_register, SessionWalker.register, Walker.ofRegistrations_eq]

theorem exits_sharedWalker :
    (sharedWalker above below).exits =
      (above.map Recorder.registration).filterMap Registration.action? ++ Session.finalize ::
        (below.map Recorder.registration).filterMap Registration.action? := by
  simp [sharedWalker, Walker.foldl_register, SessionWalker.register, Walker.ofRegistrations_eq]

theorem deliver_append {ε σ : Type} (site : Site) (first rest : List (Listener ε σ)) (state : σ) :
    Walker.deliver site (first ++ rest) state =
      match Walker.deliver site first state with
      | ⟨next, none⟩ => Walker.deliver site rest next
      | stopped => stopped := by
  induction first generalizing state with
  | nil => rfl
  | cons listener others ih =>
      rw [List.cons_append, Walker.deliver, Walker.deliver]
      split
      · cases listener.react site state with
        | mk next failure =>
            cases failure with
            | none => exact ih next
            | some why => rfl
      · exact ih state

theorem deliver_recording (recorders : List Recorder) (site : Site) (s : Session) :
    Walker.deliver site ((recorders.map Recorder.registration).filterMap Registration.listener?) s =
      ⟨s.recordAll (heardAt recorders site), none⟩ := by
  rw [deliver_eq_tellAll (neverFails_recorders recorders), tellAll_recording]

theorem heardAt_append (site : Site) :
    heardAt (above ++ below) site = heardAt above site ++ heardAt below site :=
  List.filterMap_append

theorem deliver_shared_of_unconcerned (finalized : s.analyzer.fixed = some found) {site : Site}
    (unconcerned : site.concernsAnalyzer = false) :
    Walker.deliver site (sharedWalker above below).listeners s =
      ⟨s.recordAll (heardAt (above ++ below) site), none⟩ := by
  have middle := deliver_finalized (s := s.recordAll (heardAt above site)) finalized site
  simp only [unconcerned, Bool.false_eq_true, if_false] at middle
  simp only [listeners_sharedWalker, deliver_append, deliver_recording, middle,
    Session.recordAll_recordAll, heardAt_append]

theorem deliver_shared_of_concerned (finalized : s.analyzer.fixed = some found) {site : Site}
    (concerned : site.concernsAnalyzer = true) :
    Walker.deliver site (sharedWalker above below).listeners s =
      ⟨s.recordAll (heardAt above site), some .alreadyFinalized⟩ := by
  have middle := deliver_finalized (s := s.recordAll (heardAt above site)) finalized site
  rw [concerned, if_pos rfl] at middle
  simp only [listeners_sharedWalker, deliver_append, deliver_recording, middle]

/-! ## Many sites -/

/-- What recorders around a finalized analyzer see of sites, and whether the analyzer refused one. -/
def untilRefusal (above below : List Recorder) : List Site → List Event × Option Misuse
  | [] => ([], none)
  | site :: rest =>
      if site.concernsAnalyzer then (heardAt above site, some .alreadyFinalized)
      else (heardAt (above ++ below) site ++ (untilRefusal above below rest).1,
        (untilRefusal above below rest).2)

theorem untilRefusal_of_unconcerned {sites : List Site}
    (unconcerned : ∀ site ∈ sites, site.concernsAnalyzer = false) :
    untilRefusal above below sites = (heardIn (above ++ below) sites, none) := by
  induction sites with
  | nil => rfl
  | cons site rest ih =>
      have later := ih fun other member => unconcerned other (List.mem_cons_of_mem _ member)
      simp [untilRefusal, unconcerned site List.mem_cons_self, later, heardIn]

theorem untilRefusal_of_concerned {sites : List Site}
    (concerned : ∃ site ∈ sites, site.concernsAnalyzer = true) :
    ∃ quiet site rest, sites = quiet ++ site :: rest ∧
      (∀ other ∈ quiet, other.concernsAnalyzer = false) ∧ site.concernsAnalyzer = true ∧
      untilRefusal above below sites =
        (heardIn (above ++ below) quiet ++ heardAt above site, some .alreadyFinalized) := by
  induction sites with
  | nil => simp at concerned
  | cons first rest ih =>
      by_cases here : first.concernsAnalyzer = true
      · refine ⟨[], first, rest, rfl, by simp, here, ?_⟩
        simp [untilRefusal, here, heardIn]
      · have later : ∃ site ∈ rest, site.concernsAnalyzer = true := by
          simpa [here] using concerned
        obtain ⟨quiet, site, behind, split, silent, refused, seen⟩ := ih later
        refine ⟨first :: quiet, site, behind, by rw [split]; rfl, ?_, refused, ?_⟩
        · simpa [here] using silent
        · simp [untilRefusal, here, seen, heardIn]

theorem feed_shared (finalized : s.analyzer.fixed = some found) (nodes : List Node) :
    (sharedWalker above below).feed nodes s =
      ⟨s.recordAll (untilRefusal above below (nodes.filterMap lowerSite?)).1,
        (untilRefusal above below (nodes.filterMap lowerSite?)).2⟩ := by
  -- A session only gains events here, so the analyzer it carries along stays finalized.
  induction nodes generalizing s with
  | nil => simp [Walker.feed, untilRefusal]
  | cons n rest ih =>
      cases lowered : lowerSite? n with
      | none =>
          have passed : (sharedWalker above below).dispatch n s = ⟨s, none⟩ := by
            simp [Walker.dispatch, lowered]
          rw [Walker.feed_cons_of_ok passed, ih finalized, List.filterMap_cons_none lowered]
      | some site =>
          have dispatched : (sharedWalker above below).dispatch n s =
              Walker.deliver site (sharedWalker above below).listeners s := by
            simp [Walker.dispatch, lowered]
          rw [List.filterMap_cons_some lowered, untilRefusal]
          by_cases concerned : site.concernsAnalyzer = true
          · rw [deliver_shared_of_concerned above below finalized concerned] at dispatched
            rw [Walker.feed_cons_of_failure dispatched (by simp), if_pos concerned]
          · have unconcerned : site.concernsAnalyzer = false := by simpa using concerned
            rw [deliver_shared_of_unconcerned above below finalized unconcerned] at dispatched
            have later := ih (s := s.recordAll (heardAt (above ++ below) site)) finalized
            rw [Walker.feed_cons_of_ok dispatched, later, if_neg concerned,
              Session.recordAll_recordAll]

theorem feed_preorder_shared (finalized : s.analyzer.fixed = some found) (root : Node) :
    (sharedWalker above below).feed root.preorder s =
      ⟨s.recordAll (untilRefusal above below root.sites).1,
        (untilRefusal above below root.sites).2⟩ :=
  feed_shared above below finalized root.preorder

/-! ## Walks -/

theorem foldl_exits_recording (recorders : List Recorder) (s : Session) :
    ((recorders.map Recorder.registration).filterMap Registration.action?).foldl
        (fun session action => action session) s = s.recordAll (heardAtExit recorders) := by
  rw [foldl_actions, foldl_leave_recording]

theorem foldl_exits_shared (s : Session) :
    (sharedWalker above below).exits.foldl (fun session action => action session) s =
      (s.recordAll (heardAtExit above)).finalize.recordAll (heardAtExit below) := by
  rw [exits_sharedWalker, List.foldl_append, foldl_exits_recording, List.foldl_cons,
    foldl_exits_recording]

theorem fixed_finalize (s : Session) : ∃ found, s.finalize.analyzer.fixed = some found := by
  cases fixed : s.analyzer.fixed <;> simp [Session.finalize, Session.note, Analyzer.finalize, fixed]

theorem finalize_of_finalized (finalized : s.analyzer.fixed = some found) : s.finalize = s := by
  simp [Session.finalize, Session.note, Analyzer.finalize, finalized]

theorem finalized_of_walk {counted : Nat → Session → Session} {root : Node} {first : Session}
    (walked : (sharedWalker above below).walk counted root s = ⟨first, none⟩) :
    ∃ found, first.analyzer.fixed = some found := by
  obtain ⟨fed, -, rfl⟩ := Walker.feed_of_walk walked
  rw [foldl_exits_shared]
  exact fixed_finalize _

theorem heardAtExit_append :
    heardAtExit (above ++ below) = heardAtExit above ++ heardAtExit below :=
  List.filterMap_append

theorem walk_shared_of_unconcerned (finalized : s.analyzer.fixed = some found) {root : Node}
    (unconcerned : ∀ site ∈ root.sites, site.concernsAnalyzer = false) :
    (sharedWalker above below).walk Session.counted root s =
      ⟨(s.recordAll (recordedAlone (above ++ below) root)).counted root.preorder.length, none⟩ := by
  have fed := feed_preorder_shared above below finalized root
  rw [untilRefusal_of_unconcerned above below unconcerned] at fed
  -- Among the exit actions is the analyzer's own, which does nothing the second time.
  have ended : ∀ events, (((s.recordAll events).counted root.preorder.length).recordAll
      (heardAtExit above)).finalize = ((s.recordAll events).counted root.preorder.length).recordAll
        (heardAtExit above) := fun _ => finalize_of_finalized finalized
  rw [Walker.walk_of_complete fed, foldl_exits_shared, ended, recordedAlone_eq, heardAtExit_append]
  simp [Session.counted, Session.note, Session.recordAll]

theorem walk_shared_of_concerned (finalized : s.analyzer.fixed = some found) {root : Node}
    (concerned : ∃ site ∈ root.sites, site.concernsAnalyzer = true) :
    ∃ quiet site rest, root.sites = quiet ++ site :: rest ∧
      (∀ other ∈ quiet, other.concernsAnalyzer = false) ∧ site.concernsAnalyzer = true ∧
      (sharedWalker above below).walk Session.counted root s =
        ⟨s.recordAll (heardIn (above ++ below) quiet ++ heardAt above site),
          some .alreadyFinalized⟩ := by
  obtain ⟨quiet, site, rest, split, silent, refused, seen⟩ :=
    untilRefusal_of_concerned above below concerned
  refine ⟨quiet, site, rest, split, silent, refused, ?_⟩
  have fed := feed_preorder_shared above below finalized root
  rw [seen] at fed
  exact Walker.walk_of_stopped fed Session.counted

end

def Event.isSite : Event → Bool
  | .site .. => true
  | .exit _ => false

theorem filter_isSite_recordedAlone (recorders : List Recorder) (root : Node) :
    (recordedAlone recorders root).filter Event.isSite = heardIn recorders root.sites := by
  have sites : ∀ event ∈ heardIn recorders root.sites, event.isSite = true := by
    intro event member
    obtain ⟨site, -, heard⟩ := List.mem_flatMap.1 member
    obtain ⟨recorder, -, made⟩ := List.mem_filterMap.1 heard
    cases recorder with
    | site id shape condition =>
        simp only [Recorder.siteEvent?, Option.ite_none_right_eq_some, Option.some.injEq] at made
        rw [← made.2]
        rfl
    | exit id => cases made
  have exits : ∀ event ∈ heardAtExit recorders, ¬ event.isSite = true := by
    intro event member
    obtain ⟨recorder, -, made⟩ := List.mem_filterMap.1 member
    cases recorder with
    | site id shape condition => cases made
    | exit id =>
        cases made
        simp [Event.isSite]
  rw [recordedAlone_eq, List.filter_append, List.filter_eq_self.2 sites,
    List.filter_eq_nil_iff.2 exits, List.append_nil]

theorem heardIn_begins (above below : List Recorder) (quiet : List Site) (site : Site)
    (rest : List Site) :
    heardIn (above ++ below) quiet ++ heardAt above site <+:
      heardIn (above ++ below) (quiet ++ site :: rest) := by
  refine ⟨heardAt below site ++ heardIn (above ++ below) rest, ?_⟩
  simp [heardIn, heardAt_append]

theorem walk_again_with_finalized_analyzer (above below : List Recorder) (one two : Node)
    (start first : Session)
    (walked : (sharedWalker above below).walk Session.counted one start = ⟨first, none⟩) :
    let again := (sharedWalker above below).walk Session.counted two first
    let alone := recordedAlone (above ++ below) two
    again.state.analyzer = first.analyzer ∧
    (again.failure = none ∨ again.failure = some .alreadyFinalized) ∧
    (again.failure = some .alreadyFinalized ↔
      ∃ site ∈ two.sites, site.concernsAnalyzer = true) ∧
    (again.failure = some .alreadyFinalized → ∃ quiet site rest,
      two.sites = quiet ++ site :: rest ∧
      (∀ other ∈ quiet, other.concernsAnalyzer = false) ∧ site.concernsAnalyzer = true ∧
      again.state.events =
        first.events ++ (heardIn (above ++ below) quiet ++ heardAt above site) ∧
      heardIn (above ++ below) quiet ++ heardAt above site <+: alone.filter Event.isSite ∧
      again.state.log = first.log) ∧
    (again.failure = none →
      again.state.events = first.events ++ alone ∧
      again.state.log = first.log ++ [.walked two.preorder.length]) := by
  intro again alone
  obtain ⟨found, finalized⟩ := finalized_of_walk above below walked
  by_cases concerned : ∃ site ∈ two.sites, site.concernsAnalyzer = true
  · obtain ⟨quiet, site, rest, split, silent, refused, outcome⟩ :=
      walk_shared_of_concerned above below finalized concerned
    have stopped : again = _ := outcome
    rw [stopped]
    refine ⟨rfl, .inr rfl, iff_of_true rfl concerned, fun _ => ?_, nofun⟩
    refine ⟨quiet, site, rest, split, silent, refused, rfl, ?_, rfl⟩
    rw [filter_isSite_recordedAlone, split]
    exact heardIn_begins above below quiet site rest
  · have unconcerned : ∀ site ∈ two.sites, site.concernsAnalyzer = false := by
      simpa using concerned
    have complete : again = _ := walk_shared_of_unconcerned above below finalized unconcerned
    rw [complete]
    exact ⟨rfl, .inl rfl, iff_of_false nofun concerned, nofun, fun _ => ⟨rfl, rfl⟩⟩

namespace Sample

def returnsHeard : List Recorder := [.site "returns" .returned none, .exit "first"]

def bindingsHeard : List Recorder :=
  [.site "bindings" .binding none, .site "sheets" .binding (some Site.isContainerDefinition),
    .exit "last"]

/-- A declaration that means nothing to an analyzer, a return, and a sheet. -/
def returnBeforeSheet : Node :=
  tree "program" [tree "variable_declarator" [], tree "return_statement" [], sheet]

end Sample

open Sample in
theorem walk_again_with_finalized_analyzer_sample :
    returnBeforeSheet.sites.map Site.concernsAnalyzer = [false, true, true] ∧
    ∃ first, (sharedWalker returnsHeard bindingsHeard).walk Session.counted sheet .fresh =
        ⟨first, none⟩ ∧
      let again := (sharedWalker returnsHeard bindingsHeard).walk Session.counted
        returnBeforeSheet first
      again.failure = some .alreadyFinalized ∧ again.state.analyzer = first.analyzer ∧
      again.state.log = first.log := by
  have fed : (sharedWalker returnsHeard bindingsHeard).feed sheet.preorder .fresh = ⟨_, none⟩ := rfl
  have walked := Walker.walk_of_complete fed Session.counted
  obtain ⟨same, -, refused, stopped, -⟩ := walk_again_with_finalized_analyzer returnsHeard
    bindingsHeard sheet returnBeforeSheet .fresh _ walked
  have sites : returnBeforeSheet.sites = [_, .returned .absent ⟨1, 1⟩, _] := rfl
  have failure := refused.2 ⟨.returned .absent ⟨1, 1⟩, by rw [sites]; simp, rfl⟩
  obtain ⟨-, -, -, -, -, -, -, -, unlogged⟩ := stopped failure
  exact ⟨by decide, _, walked, failure, same, unlogged⟩

end StyleAudit
