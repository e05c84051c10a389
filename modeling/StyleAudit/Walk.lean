import StyleAudit.Analyzer
import StyleAudit.Lowering

/-!
Walking a syntax tree and handing its sites to listeners.

A walk goes through the named nodes of a tree from a stack of nodes still to be seen. Each node that
is a site is handed to the listeners registered for its shape, in the order of registration; when all
nodes have been seen, the number of them is noted and the exit actions run. A listener that fails ends
the walk at once, with the state it left.
-/

namespace StyleAudit

open Syntax

structure Listener (ε σ : Type) where
  shape : Shape
  accepts : Site → Bool
  react : Site → σ → Outcome ε σ

structure Walker (ε σ : Type) where
  listeners : List (Listener ε σ)
  exits : List (σ → σ)

namespace Walker

variable {ε σ : Type}

def empty : Walker ε σ := ⟨[], []⟩

def on (w : Walker ε σ) (listener : Listener ε σ) : Walker ε σ :=
  { w with listeners := w.listeners ++ [listener] }

def onExit (w : Walker ε σ) (action : σ → σ) : Walker ε σ :=
  { w with exits := w.exits ++ [action] }

/-- Hands a site to the listeners one after the other, up to the first failure. -/
def deliver (site : Site) : List (Listener ε σ) → σ → Outcome ε σ
  | [], state => ⟨state, none⟩
  | listener :: rest, state =>
    if listener.shape = site.shape && listener.accepts site then
      match listener.react site state with
      | ⟨next, none⟩ => deliver site rest next
      | stopped => stopped
    else deliver site rest state

def dispatch (w : Walker ε σ) (n : Node) (state : σ) : Outcome ε σ :=
  match lowerSite? n with
  | some site => deliver site w.listeners state
  | none => ⟨state, none⟩

/-- Sees every node of the stack and of the trees below; returns the number of nodes seen. -/
def run (w : Walker ε σ) (stack : List Node) (seen : Nat) (state : σ) : Nat × Outcome ε σ :=
  match stack with
  | [] => (seen, ⟨state, none⟩)
  | n :: rest =>
    match w.dispatch n state with
    | ⟨next, none⟩ => w.run (n.namedChildren ++ rest) (seen + 1) next
    | stopped => (seen + 1, stopped)
  termination_by Node.sizeAll stack
  decreasing_by
    have inner := Node.sizeAll_filter_le (·.named) n.children
    simp only [Node.namedChildren, Node.sizeAll_append, Node.sizeAll, Node.size_eq]
    omega

/-- Walks a tree: all its sites, then the number of nodes is noted, then the exit actions run. -/
def walk (w : Walker ε σ) (counted : Nat → σ → σ) (root : Node) (state : σ) : Outcome ε σ :=
  match w.run [root] 0 state with
  | (seen, ⟨last, none⟩) => ⟨w.exits.foldl (fun s action => action s) (counted seen last), none⟩
  | (_, stopped) => stopped

end Walker

/-! ## Walks with an analyzer -/

inductive Event where
  | site (id : String) (site : Site)
  | exit (id : String)
  deriving Inhabited

structure Session where
  analyzer : Analyzer
  events : List Event
  log : List Note
  deriving Inhabited

namespace Session

def fresh : Session := ⟨.fresh, [], []⟩

def record (s : Session) (event : Event) : Session := { s with events := s.events ++ [event] }

def note (s : Session) (notes : List Note) : Session := { s with log := s.log ++ notes }

def follow (s : Session) (v : Visit) : Outcome Misuse Session :=
  let (⟨analyzer, failure⟩, notes) := s.analyzer.visit v
  ⟨{ s with analyzer }.note notes, failure⟩

def visit (s : Session) (v : Visit) : Except Misuse Session :=
  match s.follow v with
  | ⟨next, none⟩ => .ok next
  | ⟨_, some misuse⟩ => .error misuse

def finalize (s : Session) : Session :=
  let (analyzer, notes) := s.analyzer.finalize
  { s with analyzer }.note notes

def counted (nodes : Nat) (s : Session) : Session := s.note [.walked nodes]

end Session

abbrev SessionWalker := Walker Misuse Session

def analyzing (shape : Shape) (read : Site → Option Visit) : Listener Misuse Session where
  shape := shape
  accepts site := (read site).isSome
  react site session :=
    match read site with
    | some v => session.follow v
    | none => ⟨session, none⟩

def recording (id : String) (shape : Shape) (accepts : Site → Bool) : Listener Misuse Session where
  shape := shape
  accepts := accepts
  react site session := ⟨session.record (.site id site), none⟩

def analyzerListeners : List (Listener Misuse Session) :=
  [analyzing .binding Visit.definition?, analyzing .binding Visit.destructuring?,
    analyzing .attr Visit.styleAttribute?, analyzing .returned Visit.returned?,
    analyzing .assignment Visit.assigned?]

def SessionWalker.register (w : SessionWalker) : SessionWalker where
  listeners := w.listeners ++ analyzerListeners
  exits := w.exits ++ [Session.finalize]

def recordingAll (shape : Shape) : Listener Misuse Session :=
  recording "" shape fun _ => true

def examine (root : Node) : Outcome Misuse Session :=
  (SessionWalker.register Walker.empty).walk Session.counted root .fresh

def analyzeTree (root : Node) : Except Misuse (List Finding) :=
  match examine root with
  | ⟨session, none⟩ => session.analyzer.findings
  | ⟨_, some misuse⟩ => .error misuse

def sitesOf (root : Node) : List Site :=
  let walker : SessionWalker :=
    ⟨[Shape.binding, .attr, .returned, .assignment].map recordingAll, []⟩
  (walker.walk Session.counted root .fresh).state.events.filterMap fun
    | .site _ site => some site
    | .exit _ => none

end StyleAudit
