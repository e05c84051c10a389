import StyleAudit.Analyzer
import Mathlib.Data.List.TakeWhile

/-!
# The life of an analyzer

An analyzer is driven by visits, finalizations and requests for its findings, in any order. Up to the
first finalization every visit is taken in and every request is refused; from then on every visit is
refused, the findings of that moment are the answer to everything else, and nothing changes any more.
-/

namespace StyleAudit

/-! ## Operations -/

/-- The visiting operations, each with its reading of a site. -/
inductive VisitMethod where
  | definition
  | destructuring
  | styleAttribute
  | returned
  | assigned

def VisitMethod.read? : VisitMethod → Site → Option Visit
  | definition => Visit.definition?
  | destructuring => Visit.destructuring?
  | styleAttribute => Visit.styleAttribute?
  | returned => Visit.returned?
  | assigned => Visit.assigned?

/-- A site is only ever handed to a method that has a reading of it. -/
inductive Operation where
  | visit (method : VisitMethod) (site : { s : Site // (method.read? s).isSome })
  | finalize
  | findings

def Operation.isFinalize : Operation → Bool
  | finalize => true
  | _ => false

inductive Reply where
  | taken
  | findings (list : List Finding)
  | refused (misuse : Misuse)

namespace Analyzer

def answer (a : Analyzer) : Reply :=
  match a.findings with
  | .ok list => .findings list
  | .error misuse => .refused misuse

def perform (a : Analyzer) : Operation → Analyzer × Reply
  | .visit method site =>
      match (a.visit ((method.read? site).get site.2)).1 with
      | ⟨next, none⟩ => (next, .taken)
      | ⟨next, some misuse⟩ => (next, .refused misuse)
  | .finalize => (a.finalize.1, a.finalize.1.answer)
  | .findings => (a, a.answer)

def after (a : Analyzer) (operations : List Operation) : Analyzer :=
  operations.foldl (fun state operation => (state.perform operation).1) a

end Analyzer

/-- An operation with its reply and the analyzer it left. -/
structure Step where
  operation : Operation
  reply : Reply
  left : Analyzer

def Analyzer.trace (a : Analyzer) : List Operation → List Step
  | [] => []
  | operation :: rest =>
      ⟨operation, (a.perform operation).2, (a.perform operation).1⟩ ::
        (a.perform operation).1.trace rest

/-- The reply before any finalization; a finalization is not among the operations then. -/
def Operation.openReply : Operation → Reply
  | visit .. => .taken
  | _ => .refused .notFinished

def Operation.fixedReply (list : List Finding) : Operation → Reply
  | visit .. => .refused .alreadyFinalized
  | _ => .findings list

/-! ## One operation -/

namespace Analyzer

variable {a : Analyzer}

theorem perform_of_open (traversing : a.fixed = none) {operation : Operation}
    (other : operation.isFinalize = false) :
    (a.perform operation).2 = operation.openReply ∧ (a.perform operation).1.fixed = none := by
  cases operation with
  | visit method site => simp [perform, visit, traversing, Operation.openReply]
  | finalize => cases other
  | findings => simp [perform, answer, findings, traversing, Operation.openReply]

theorem perform_finalize_of_open (traversing : a.fixed = none) :
    a.perform .finalize = (⟨a.symbols, some (unused a.symbols)⟩, .findings (unused a.symbols)) := by
  simp [perform, finalize, answer, findings, traversing]

theorem perform_of_fixed {list : List Finding} (finalized : a.fixed = some list)
    (operation : Operation) : a.perform operation = (a, operation.fixedReply list) := by
  cases operation with
  | visit method site => simp [perform, visit, finalized, Operation.fixedReply]
  | finalize => simp [perform, finalize, answer, findings, finalized, Operation.fixedReply]
  | findings => simp [perform, answer, findings, finalized, Operation.fixedReply]

/-! ## Sequences of operations -/

theorem trace_of_fixed {list : List Finding} (finalized : a.fixed = some list)
    (operations : List Operation) :
    a.trace operations =
      operations.map fun operation => ⟨operation, operation.fixedReply list, a⟩ := by
  induction operations with
  | nil => rfl
  | cons operation rest ih =>
      rw [trace, perform_of_fixed finalized, ih, List.map_cons]

theorem trace_of_open (traversing : a.fixed = none) {operations : List Operation}
    (others : ∀ operation ∈ operations, operation.isFinalize = false) :
    (∀ step ∈ a.trace operations,
      step.reply = step.operation.openReply ∧ step.left.fixed = none) ∧
      (a.after operations).fixed = none := by
  induction operations generalizing a with
  | nil => exact ⟨by simp [trace], traversing⟩
  | cons operation rest ih =>
      have first := perform_of_open traversing (others operation List.mem_cons_self)
      obtain ⟨steps, last⟩ := ih first.2 fun later member =>
        others later (List.mem_cons_of_mem _ member)
      refine ⟨?_, last⟩
      intro step member
      rcases List.mem_cons.1 member with rfl | later
      · exact first
      · exact steps step later

theorem trace_append (a : Analyzer) (first second : List Operation) :
    a.trace (first ++ second) = a.trace first ++ (a.after first).trace second := by
  induction first generalizing a with
  | nil => rfl
  | cons operation rest ih =>
      rw [List.cons_append, trace, ih, trace, List.cons_append]
      rfl

theorem trace_from_finalize (traversing : a.fixed = none) (rest : List Operation) :
    a.trace (.finalize :: rest) = (.finalize :: rest).map fun operation =>
      ⟨operation, operation.fixedReply (unused a.symbols), ⟨a.symbols, some (unused a.symbols)⟩⟩ := by
  rw [trace, perform_finalize_of_open traversing, trace_of_fixed rfl, List.map_cons]
  rfl

theorem dropWhile_isFinalize (operations : List Operation) :
    operations.dropWhile (fun operation => !operation.isFinalize) = [] ∨
      ∃ rest, operations.dropWhile (fun operation => !operation.isFinalize) = .finalize :: rest := by
  induction operations with
  | nil => exact .inl rfl
  | cons operation rest ih =>
      cases operation with
      | finalize => exact .inr ⟨rest, rfl⟩
      | _ => exact ih

theorem trace_fresh (operations : List Operation) :
    let first := operations.takeWhile fun operation => !operation.isFinalize
    let later := operations.dropWhile fun operation => !operation.isFinalize
    let symbols := (fresh.after first).symbols
    let found := symbols.unusedDefinitions.map fun (name, entry) => (⟨name, entry⟩ : Finding)
    (∀ step ∈ fresh.trace first,
      step.reply = step.operation.openReply ∧ step.left.fixed = none) ∧
    fresh.trace operations = fresh.trace first ++ later.map fun operation =>
      ⟨operation, operation.fixedReply found, ⟨symbols, some found⟩⟩ := by
  intro first later symbols found
  have others : ∀ operation ∈ first, operation.isFinalize = false := by
    intro operation member
    simpa using List.mem_takeWhile_imp member
  obtain ⟨steps, traversing⟩ := trace_of_open (a := fresh) rfl others
  have whole : fresh.trace operations = fresh.trace first ++ (fresh.after first).trace later := by
    rw [← trace_append, List.takeWhile_append_dropWhile]
  refine ⟨steps, whole.trans (congrArg (fresh.trace first ++ ·) ?_)⟩
  rcases dropWhile_isFinalize operations with none | ⟨rest, some⟩
  · simp only [later, none, trace, List.map_nil]
  · simp only [later, some]
    exact trace_from_finalize traversing rest

end Analyzer

end StyleAudit
