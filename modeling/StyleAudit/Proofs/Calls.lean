import StyleAudit.Proofs.Reading

/-!
# The calls that a walk makes

A walker is set up by registrations: reactions to the sites of one shape, with or without a condition,
and exit actions. `calls` reads off the registrations and the tree what a walk has to call, and in
which order: each site of the pre-order goes to the reactions for it, then the nodes are counted, then
the exit actions run. Registrations that note every call they get (`Registration.traced`) are left
with exactly these notes, and with the state that a walk without notes leaves.
-/

namespace StyleAudit

open Syntax

variable {ε σ : Type}

/-! ## Registrations -/

inductive Registration (ε σ : Type) where
  | on (shape : Shape) (react : Site → σ → Outcome ε σ) (condition : Option (Site → Bool))
  | onExit (action : σ → σ)

namespace Registration

def listener? : Registration ε σ → Option (Listener ε σ)
  | on shape react condition => some ⟨shape, fun site => condition.all fun test => test site, react⟩
  | onExit _ => none

def action? : Registration ε σ → Option (σ → σ)
  | on .. => none
  | onExit action => some action

def hears (site : Site) : Registration ε σ → Bool
  | on shape _ condition => shape = site.shape && condition.all fun test => test site
  | onExit _ => false

def isExit : Registration ε σ → Bool
  | on .. => false
  | onExit _ => true

def NeverFails : Registration ε σ → Prop
  | on _ react _ => ∀ site state, (react site state).failure = none
  | onExit _ => True

end Registration

namespace Walker

def register (w : Walker ε σ) : Registration ε σ → Walker ε σ
  | .on shape react condition => w.on ⟨shape, fun site => condition.all fun test => test site, react⟩
  | .onExit action => w.onExit action

def ofRegistrations (registrations : List (Registration ε σ)) : Walker ε σ :=
  registrations.foldl register empty

theorem foldl_register (registrations : List (Registration ε σ)) (w : Walker ε σ) :
    registrations.foldl register w = ⟨w.listeners ++ registrations.filterMap Registration.listener?,
      w.exits ++ registrations.filterMap Registration.action?⟩ := by
  induction registrations generalizing w with
  | nil => simp
  | cons r rest ih =>
      rw [List.foldl_cons, ih]
      cases r with
      | on shape react condition =>
          simp [register, on, Registration.listener?, Registration.action?, List.filterMap_cons]
      | onExit action =>
          simp [register, onExit, Registration.listener?, Registration.action?, List.filterMap_cons]

theorem ofRegistrations_eq (registrations : List (Registration ε σ)) :
    ofRegistrations registrations = ⟨registrations.filterMap Registration.listener?,
      registrations.filterMap Registration.action?⟩ := by
  rw [ofRegistrations, foldl_register]
  simp [empty]

end Walker

/-! ## A walk without failures -/

namespace Registration

def tell (site : Site) (state : σ) : Registration ε σ → σ
  | on shape react condition =>
      if (on shape react condition).hears site then (react site state).state else state
  | onExit _ => state

def leave (state : σ) : Registration ε σ → σ
  | on .. => state
  | onExit action => action state

end Registration

def tellAll (registrations : List (Registration ε σ)) (state : σ) (site : Site) : σ :=
  registrations.foldl (Registration.tell site) state

theorem deliver_cons_of_quiet {listener : Listener ε σ} {site : Site} {state : σ}
    (quiet : (listener.react site state).failure = none) (rest : List (Listener ε σ)) :
    Walker.deliver site (listener :: rest) state = Walker.deliver site rest
      (if listener.shape = site.shape && listener.accepts site then (listener.react site state).state
        else state) := by
  have taken : listener.react site state = ⟨(listener.react site state).state, none⟩ := by
    rw [← quiet]
  rw [Walker.deliver]
  split
  · rw [taken]
  · rfl

theorem deliver_eq_tellAll {registrations : List (Registration ε σ)}
    (quiet : ∀ r ∈ registrations, r.NeverFails) (site : Site) (state : σ) :
    Walker.deliver site (registrations.filterMap Registration.listener?) state =
      ⟨tellAll registrations state site, none⟩ := by
  induction registrations generalizing state with
  | nil => rfl
  | cons r rest ih =>
      have later := ih fun other member => quiet other (List.mem_cons_of_mem _ member)
      cases r with
      | onExit action => exact later state
      | on shape react condition =>
          have never : (react site state).failure = none := quiet _ List.mem_cons_self site state
          exact (deliver_cons_of_quiet never _).trans (later _)

theorem feed_eq_tellAll {registrations : List (Registration ε σ)}
    (quiet : ∀ r ∈ registrations, r.NeverFails) (nodes : List Node) (state : σ) :
    (Walker.ofRegistrations registrations).feed nodes state =
      ⟨(nodes.filterMap lowerSite?).foldl (tellAll registrations) state, none⟩ := by
  induction nodes generalizing state with
  | nil => rfl
  | cons n rest ih =>
      cases lowered : lowerSite? n with
      | none =>
          have passed : (Walker.ofRegistrations registrations).dispatch n state = ⟨state, none⟩ := by
            simp [Walker.dispatch, lowered]
          rw [Walker.feed_cons_of_ok passed, ih, List.filterMap_cons_none lowered]
      | some site =>
          have told : (Walker.ofRegistrations registrations).dispatch n state =
              ⟨tellAll registrations state site, none⟩ := by
            rw [Walker.dispatch, lowered, Walker.ofRegistrations_eq]
            exact deliver_eq_tellAll quiet site state
          rw [Walker.feed_cons_of_ok told, ih, List.filterMap_cons_some lowered, List.foldl_cons]

theorem foldl_actions (registrations : List (Registration ε σ)) (state : σ) :
    (registrations.filterMap Registration.action?).foldl (fun s action => action s) state =
      registrations.foldl Registration.leave state := by
  induction registrations generalizing state with
  | nil => rfl
  | cons r rest ih =>
      cases r with
      | on shape react condition => exact ih state
      | onExit action => exact ih (action state)

theorem walk_eq_tellAll {registrations : List (Registration ε σ)}
    (quiet : ∀ r ∈ registrations, r.NeverFails) (counted : Nat → σ → σ) (root : Node) (state : σ) :
    (Walker.ofRegistrations registrations).walk counted root state =
      ⟨registrations.foldl Registration.leave
        (counted root.preorder.length (root.sites.foldl (tellAll registrations) state)), none⟩ := by
  rw [Walker.walk_of_complete (feed_eq_tellAll quiet root.preorder state), ← foldl_actions,
    Walker.ofRegistrations_eq]
  rfl

/-! ## Calls -/

/-- Something that a walk calls; what was registered is known by its place among the registrations. -/
inductive Call where
  | react (place : Nat) (site : Site)
  | count (nodes : Nat)
  | exit (place : Nat)

def siteCalls (registrations : List (Registration ε σ × Nat)) (site : Site) : List Call :=
  (registrations.filter fun r => r.1.hears site).map fun r => .react r.2 site

theorem siteCalls_cons_of_hears {r : Registration ε σ × Nat} {site : Site}
    (heard : r.1.hears site = true) (rest : List (Registration ε σ × Nat)) :
    siteCalls (r :: rest) site = .react r.2 site :: siteCalls rest site := by
  simp [siteCalls, heard]

theorem siteCalls_cons_of_not_hears {r : Registration ε σ × Nat} {site : Site}
    (unheard : ¬ r.1.hears site = true) (rest : List (Registration ε σ × Nat)) :
    siteCalls (r :: rest) site = siteCalls rest site := by
  simp [siteCalls, unheard]

def exitCalls (registrations : List (Registration ε σ × Nat)) : List Call :=
  (registrations.filter fun r => r.1.isExit).map fun r => .exit r.2

def calls (registrations : List (Registration ε σ)) (root : Node) : List Call :=
  root.sites.flatMap (siteCalls registrations.zipIdx) ++
    .count root.preorder.length :: exitCalls registrations.zipIdx

def Registration.traced : Registration ε σ × Nat → Registration ε (σ × List Call)
  | (on shape react condition, place) =>
      on shape (fun site (state, notes) =>
        ⟨((react site state).state, notes ++ [.react place site]), (react site state).failure⟩) condition
  | (onExit action, place) => onExit fun (state, notes) => (action state, notes ++ [.exit place])

theorem neverFails_traced {registrations : List (Registration ε σ)}
    (quiet : ∀ r ∈ registrations, r.NeverFails) :
    ∀ r ∈ registrations.zipIdx.map Registration.traced, r.NeverFails := by
  intro r member
  obtain ⟨⟨original, place⟩, indexed, rfl⟩ := List.mem_map.1 member
  have never := quiet original (List.fst_mem_of_mem_zipIdx indexed)
  cases original with
  | on shape react condition => exact fun site state => never site state.1
  | onExit action => trivial

theorem foldl_tell_traced (indexed : List (Registration ε σ × Nat)) (site : Site) (state : σ)
    (notes : List Call) :
    (indexed.map Registration.traced).foldl (Registration.tell site) (state, notes) =
      ((indexed.map (·.1)).foldl (Registration.tell site) state, notes ++ siteCalls indexed site) := by
  induction indexed generalizing state notes with
  | nil => simp [siteCalls]
  | cons r rest ih =>
      obtain ⟨original, place⟩ := r
      cases original with
      | onExit action => exact ih state notes
      | on shape react condition =>
          rw [List.map_cons, List.foldl_cons, List.map_cons, List.foldl_cons]
          by_cases heard : (Registration.on shape react condition).hears site = true
          · have told : (Registration.traced (.on shape react condition, place)).tell site
                (state, notes) = ((react site state).state, notes ++ [.react place site]) :=
              if_pos heard
            rw [told, ih, siteCalls_cons_of_hears heard, Registration.tell, if_pos heard,
              List.append_assoc, List.singleton_append]
          · have passed : (Registration.traced (.on shape react condition, place)).tell site
                (state, notes) = (state, notes) := if_neg heard
            rw [passed, ih, siteCalls_cons_of_not_hears heard, Registration.tell, if_neg heard]

theorem foldl_tellAll_traced (registrations : List (Registration ε σ)) (sites : List Site) (state : σ)
    (notes : List Call) :
    sites.foldl (tellAll (registrations.zipIdx.map Registration.traced)) (state, notes) =
      (sites.foldl (tellAll registrations) state,
        notes ++ sites.flatMap (siteCalls registrations.zipIdx)) := by
  induction sites generalizing state notes with
  | nil => simp
  | cons site rest ih =>
      have first := foldl_tell_traced registrations.zipIdx site state notes
      rw [List.zipIdx_map_fst] at first
      rw [List.foldl_cons, tellAll, first, ih, List.foldl_cons, List.flatMap_cons, List.append_assoc]
      rfl

theorem foldl_leave_traced (indexed : List (Registration ε σ × Nat)) (state : σ) (notes : List Call) :
    (indexed.map Registration.traced).foldl Registration.leave (state, notes) =
      ((indexed.map (·.1)).foldl Registration.leave state, notes ++ exitCalls indexed) := by
  induction indexed generalizing state notes with
  | nil => simp [exitCalls]
  | cons r rest ih =>
      obtain ⟨original, place⟩ := r
      cases original with
      | on shape react condition => exact ih state notes
      | onExit action =>
          have left := ih (action state) (notes ++ [.exit place])
          rw [List.append_assoc] at left
          exact left

/-- A walk of registrations that never fail ends without failure and makes exactly the calls that
registrations and tree ask for. -/
theorem walk_makes_calls (registrations : List (Registration ε σ))
    (quiet : ∀ r ∈ registrations, r.NeverFails) (counted : Nat → σ → σ) (root : Node) (state : σ) :
    ∃ last, (Walker.ofRegistrations registrations).walk counted root state = ⟨last, none⟩ ∧
      (Walker.ofRegistrations (registrations.zipIdx.map Registration.traced)).walk
          (fun nodes (s, notes) => (counted nodes s, notes ++ [.count nodes])) root (state, []) =
        ⟨(last, calls registrations root), none⟩ := by
  refine ⟨_, walk_eq_tellAll quiet counted root state, ?_⟩
  -- The traced registrations never fail either, so both walks are folds and the notes split off.
  rw [walk_eq_tellAll (neverFails_traced quiet), foldl_tellAll_traced, foldl_leave_traced,
    List.zipIdx_map_fst]
  simp [calls]

namespace Sample

/-- Two reactions to returned values around an exit action, and one that never hears a binding. -/
def counters : List (Registration Misuse Nat) :=
  [.on .returned (fun _ n => ⟨n + 1, none⟩) none, .onExit (· * 10),
    .on .binding (fun _ n => ⟨n + 5, none⟩) (some Site.isContainerDestructuring),
    .on .returned (fun _ n => ⟨n * 3, none⟩) (some fun _ => true)]

def sheetReturned : Node := tree "program" [sheet, tree "return_statement" []]

end Sample

open Sample in
theorem walk_makes_calls_sample :
    calls counters sheetReturned =
      [.react 0 (.returned .absent ⟨1, 1⟩), .react 3 (.returned .absent ⟨1, 1⟩), .count 13, .exit 1] ∧
    (∀ r ∈ counters, r.NeverFails) ∧
    ∃ last, (Walker.ofRegistrations counters).walk (fun _ n => n) sheetReturned 0 = ⟨last, none⟩ ∧
      (Walker.ofRegistrations (counters.zipIdx.map Registration.traced)).walk
          (fun nodes (s, notes) => (s, notes ++ [.count nodes])) sheetReturned (0, []) =
        ⟨(last, calls counters sheetReturned), none⟩ := by
  have quiet : ∀ r ∈ counters, r.NeverFails := by
    simp [counters, Registration.NeverFails]
  exact ⟨rfl, quiet, walk_makes_calls counters quiet (fun _ n => n) sheetReturned 0⟩

/-! ## Listing the sites -/

def recorders : List (Registration Misuse Session) :=
  [Shape.binding, .attr, .returned, .assignment].map fun shape =>
    .on shape (fun site session => ⟨session.record (.site "" site), none⟩) none

theorem tellAll_recorders (session : Session) (site : Site) :
    tellAll recorders session site = session.record (.site "" site) := by
  cases site <;> rfl

theorem events_foldl_recorders (sites : List Site) (session : Session) :
    (sites.foldl (tellAll recorders) session).events = session.events ++ sites.map (.site "") := by
  induction sites generalizing session with
  | nil => simp
  | cons site rest ih =>
      rw [List.foldl_cons, ih, tellAll_recorders]
      simp [Session.record]

theorem sitesOf_eq (root : Node) : sitesOf root = root.sites := by
  have quiet : ∀ r ∈ recorders, r.NeverFails := by
    simp [recorders, Registration.NeverFails]
  have walked := walk_eq_tellAll quiet Session.counted root .fresh
  have events : ((Walker.ofRegistrations recorders).walk Session.counted root .fresh).state.events =
      root.sites.map (.site "") := by
    rw [walked]
    exact (events_foldl_recorders root.sites .fresh).trans (List.nil_append _)
  exact (congrArg (List.filterMap _) events).trans (by simp [List.filterMap_map])

end StyleAudit
