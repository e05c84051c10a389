import StyleAudit.Walk
import Mathlib.Logic.Relation

/-!
# A walk sees a tree in pre-order

`Node.preorder` lists what can be reached from a node through named children. The stack loop of a
walk is compared with a pass over that list (`Walker.feed`): the loop started on a stack does what
the pass does on the pre-orders of the stack, one after the other, failures included.
-/

namespace StyleAudit.Syntax.Node

/-! ## Pre-order -/

mutual

/-- A node and what lies below it through named children, parents first. -/
def preorder : Node → List Node
  | ⟨kind, named, field, missing, start, text, children⟩ =>
      ⟨kind, named, field, missing, start, text, children⟩ :: preorderNamed children

def preorderNamed : List Node → List Node
  | [] => []
  | n :: rest => if n.named then n.preorder ++ preorderNamed rest else preorderNamed rest

end

theorem preorderNamed_eq (ns : List Node) :
    preorderNamed ns = (ns.filter (·.named)).flatMap preorder := by
  induction ns with
  | nil => rfl
  | cons n rest ih =>
      by_cases named : n.named = true
      · simp [preorderNamed, named, ih]
      · simp [preorderNamed, named, ih]

theorem preorder_eq (n : Node) : n.preorder = n :: n.namedChildren.flatMap preorder := by
  cases n
  simp [preorder, preorderNamed_eq, namedChildren]

theorem size_le_sizeAll {n : Node} {ns : List Node} (member : n ∈ ns) : n.size ≤ sizeAll ns := by
  induction ns with
  | nil => cases member
  | cons m rest ih =>
      rw [sizeAll]
      rcases List.mem_cons.1 member with rfl | later
      · omega
      · have := ih later
        omega

theorem size_lt_of_namedChild {n child : Node} (member : child ∈ n.namedChildren) :
    child.size < n.size := by
  have bound := size_le_sizeAll (List.mem_filter.1 member).1
  rw [size_eq n]
  omega

def Reaches : Node → Node → Prop :=
  Relation.ReflTransGen fun n child => child ∈ n.namedChildren

theorem reaches_of_mem_preorder {n m : Node} (member : m ∈ n.preorder) : n.Reaches m := by
  rw [preorder_eq, List.mem_cons, List.mem_flatMap] at member
  rcases member with rfl | ⟨child, below, inner⟩
  · exact Relation.ReflTransGen.refl
  · have smaller := size_lt_of_namedChild below
    exact Relation.ReflTransGen.head below (reaches_of_mem_preorder inner)
termination_by n.size

theorem mem_preorder_iff {n m : Node} : m ∈ n.preorder ↔ n.Reaches m := by
  constructor
  · exact reaches_of_mem_preorder
  · intro reached
    induction reached using Relation.ReflTransGen.head_induction_on with
    | refl => simp [preorder_eq m]
    | head below _ ih =>
        rw [preorder_eq]
        exact List.mem_cons_of_mem _ (List.mem_flatMap.2 ⟨_, below, ih⟩)

end StyleAudit.Syntax.Node

namespace StyleAudit.Walker
open Syntax

variable {ε σ : Type}

/-! ## The stack loop -/

/-- Hands nodes to the listeners one after the other, up to the first failure. -/
def feed (w : Walker ε σ) : List Node → σ → Outcome ε σ
  | [], state => ⟨state, none⟩
  | n :: rest, state =>
      match w.dispatch n state with
      | ⟨next, none⟩ => w.feed rest next
      | stopped => stopped

theorem feed_cons_of_ok {w : Walker ε σ} {n : Node} {state next : σ}
    (taken : w.dispatch n state = ⟨next, none⟩) (rest : List Node) :
    w.feed (n :: rest) state = w.feed rest next := by
  simp [feed, taken]

theorem feed_cons_of_failure {w : Walker ε σ} {n : Node} {state : σ} {stopped : Outcome ε σ}
    (failed : w.dispatch n state = stopped) (failure : stopped.failure ≠ none)
    (rest : List Node) : w.feed (n :: rest) state = stopped := by
  obtain ⟨last, none | why⟩ := stopped
  · exact absurd rfl failure
  · simp [feed, failed]

theorem flatMap_preorder_push (n : Node) (rest : List Node) :
    (n :: rest).flatMap Node.preorder =
      n :: (n.namedChildren ++ rest).flatMap Node.preorder := by
  rw [List.flatMap_cons, Node.preorder_eq, List.flatMap_append, List.cons_append]

theorem run_outcome (w : Walker ε σ) (stack : List Node) (seen : Nat) (state : σ) :
    (w.run stack seen state).2 = w.feed (stack.flatMap Node.preorder) state := by
  -- What is still to come is the pre-order of every tree on the stack; a step takes off its head.
  fun_induction run w stack seen state with
  | case1 seen state => rfl
  | case2 seen state n rest next taken ih =>
      rw [ih, flatMap_preorder_push, feed_cons_of_ok taken]
  | case3 seen state n rest failed =>
      rw [flatMap_preorder_push]
      refine (feed_cons_of_failure rfl ?_ _).symm
      intro none
      exact failed (w.dispatch n state).state (by rw [← none])

theorem run_seen (w : Walker ε σ) (stack : List Node) (seen : Nat) (state : σ)
    (complete : (w.feed (stack.flatMap Node.preorder) state).failure = none) :
    (w.run stack seen state).1 = seen + (stack.flatMap Node.preorder).length := by
  fun_induction run w stack seen state with
  | case1 seen state => rfl
  | case2 seen state n rest next taken ih =>
      rw [flatMap_preorder_push, feed_cons_of_ok taken] at complete
      rw [ih complete, flatMap_preorder_push, List.length_cons]
      omega
  | case3 seen state n rest failed =>
      have failure : (w.dispatch n state).failure ≠ none := by
        intro none
        exact failed (w.dispatch n state).state (by rw [← none])
      rw [flatMap_preorder_push, feed_cons_of_failure rfl failure] at complete
      exact absurd complete failure

theorem walk_of_complete {w : Walker ε σ} {root : Node} {state last : σ}
    (complete : w.feed root.preorder state = ⟨last, none⟩) (counted : Nat → σ → σ) :
    w.walk counted root state =
      ⟨w.exits.foldl (fun s action => action s) (counted root.preorder.length last), none⟩ := by
  have single : [root].flatMap Node.preorder = root.preorder := by simp
  have outcome := run_outcome w [root] 0 state
  have seen := run_seen w [root] 0 state
  rw [single, complete] at outcome seen
  have pair : w.run [root] 0 state = (root.preorder.length, ⟨last, none⟩) :=
    Prod.ext (by rw [seen rfl, Nat.zero_add]) outcome
  simp [walk, pair]

theorem walk_of_stopped {w : Walker ε σ} {root : Node} {state last : σ} {why : ε}
    (stopped : w.feed root.preorder state = ⟨last, some why⟩) (counted : Nat → σ → σ) :
    w.walk counted root state = ⟨last, some why⟩ := by
  have outcome := run_outcome w [root] 0 state
  rw [List.flatMap_singleton, stopped] at outcome
  have pair : w.run [root] 0 state = ((w.run [root] 0 state).1, ⟨last, some why⟩) :=
    Prod.ext rfl outcome
  rw [walk, pair]

theorem feed_of_walk {w : Walker ε σ} {counted : Nat → σ → σ} {root : Node} {state last : σ}
    (walked : w.walk counted root state = ⟨last, none⟩) :
    ∃ fed, w.feed root.preorder state = ⟨fed, none⟩ ∧
      last = w.exits.foldl (fun s action => action s) (counted root.preorder.length fed) := by
  cases fed : w.feed root.preorder state with
  | mk middle failure =>
      cases failure with
      | none =>
          rw [walk_of_complete fed] at walked
          exact ⟨middle, rfl, (congrArg Outcome.state walked).symm⟩
      | some why =>
          rw [walk_of_stopped fed] at walked
          cases walked

end StyleAudit.Walker
