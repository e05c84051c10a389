import StyleAudit.Proofs.Preorder
import StyleAudit.Lowering

/-!
# The nodes that lowering turns to

`Node.operands` lists the nodes that one level of lowering hands to the level below: the result of
`lowerNode` is fixed by what becomes of them, and it shows what becomes of each (`lowerNode_eq_iff`).
Every operand is a smaller tree. So lowering is defined without any limit (`lowerFully`), and the calls
that lowering with its limit makes can be followed (`Calls`): as long as none of them is made too deep,
the limit has no effect.
-/

namespace StyleAudit.Syntax.Node

/-! ## Operands -/

/-- The node whose value an entry of an object brings in. -/
def itemOperand? (item : Node) : Option Node :=
  match item.kind with
  | "pair" => item.child? "value"
  | "shorthand_property_identifier" => some item
  | "spread_element" => some item
  | _ => none

def argumentOperands (call : Node) : List Node :=
  match call.child? "arguments" with
  | some arguments => if arguments.kind == "arguments" then arguments.parts else []
  | none => []

/-- The nodes that lowering turns to one level below a node. -/
def operands (n : Node) : List Node :=
  let filling fields := fields.filterMap n.child?
  match Form.ofKind n.kind with
  | .wrapper => n.parts.head?.toList
  | .member => filling ["object"]
  | .subscript => filling ["object"]
  | .array => n.parts
  | .spread => n.parts.head?.toList
  | .object => n.namedChildren.filterMap itemOperand?
  | .conditional => filling ["condition", "consequence", "alternative"]
  | .binary => filling ["left", "right"]
  | .unary => filling ["argument"]
  | .update => filling ["argument"]
  | .call => filling ["function"] ++ n.argumentOperands
  | .name => []
  | .other => []

theorem size_lt_of_child {n child : Node} (member : child ∈ n.children) : child.size < n.size := by
  have bound := size_le_sizeAll member
  rw [size_eq n]
  omega

theorem size_lt_of_child? {n child : Node} {field : String} (found : n.child? field = some child) :
    child.size < n.size :=
  size_lt_of_child (List.mem_of_find?_eq_some found)

theorem size_lt_of_part {n part : Node} (member : part ∈ n.parts) : part.size < n.size :=
  size_lt_of_namedChild (List.mem_filter.1 member).1

theorem size_lt_of_filling {n m : Node} {fields : List String}
    (member : m ∈ fields.filterMap n.child?) : m.size < n.size := by
  obtain ⟨field, -, found⟩ := List.mem_filterMap.1 member
  exact size_lt_of_child? found

theorem size_le_of_itemOperand? {item m : Node} (brought : item.itemOperand? = some m) :
    m.size ≤ item.size := by
  unfold itemOperand? at brought
  split at brought
  · exact Nat.le_of_lt (size_lt_of_child? brought)
  · cases brought
    exact Nat.le_refl _
  · cases brought
    exact Nat.le_refl _
  · cases brought

theorem size_lt_of_argumentOperand {call m : Node} (member : m ∈ call.argumentOperands) :
    m.size < call.size := by
  unfold argumentOperands at member
  split at member
  · rename_i arguments listed
    split at member
    · exact Nat.lt_trans (size_lt_of_part member) (size_lt_of_child? listed)
    · cases member
  · cases member

theorem size_lt_of_operand {n m : Node} (operand : m ∈ n.operands) : m.size < n.size := by
  have leading : m ∈ n.parts.head?.toList → m.size < n.size := fun member =>
    size_lt_of_part (List.mem_of_head? (Option.mem_toList.1 member))
  unfold operands at operand
  cases form : Form.ofKind n.kind <;> simp only [form] at operand
  case wrapper | spread => exact leading operand
  case member | subscript | conditional | binary | unary | update => exact size_lt_of_filling operand
  case array => exact size_lt_of_part operand
  case object =>
    obtain ⟨item, member, brought⟩ := List.mem_filterMap.1 operand
    exact Nat.lt_of_le_of_lt (size_le_of_itemOperand? brought) (size_lt_of_namedChild member)
  case call =>
    rcases List.mem_append.1 operand with callee | argument
    · exact size_lt_of_filling callee
    · exact size_lt_of_argumentOperand argument
  case name | other => cases operand

end StyleAudit.Syntax.Node

namespace StyleAudit

open Syntax

/-! ## One level of lowering and its operands -/

section

variable {f g : Node → Term}

theorem lowerChild_eq_iff {n : Option Node} :
    lowerChild f n = lowerChild g n ↔ ∀ m, n = some m → f m = g m := by
  cases n <;> simp [lowerChild]

theorem lowerItem?_eq_iff {item : Node} :
    lowerItem? f item = lowerItem? g item ↔ ∀ m, item.itemOperand? = some m → f m = g m := by
  unfold lowerItem?
  split <;> rename_i kind
  · simp [Node.itemOperand?, kind, lowerChild_eq_iff]
  · simp [Node.itemOperand?, kind]
  · simp [Node.itemOperand?, kind]
  · simp [Node.itemOperand?, kind]
  · have none : item.itemOperand? = none := by
      unfold Node.itemOperand?
      split <;> first | contradiction | rfl
    simp [none]

theorem isSome_lowerItem? (item : Node) : (lowerItem? f item).isSome = (lowerItem? g item).isSome := by
  unfold lowerItem?
  split <;> rfl

theorem filterMap_lowerItem?_eq_iff {items : List Node} :
    items.filterMap (lowerItem? f) = items.filterMap (lowerItem? g) ↔
      ∀ item ∈ items, lowerItem? f item = lowerItem? g item := by
  induction items with
  | nil => simp
  | cons item rest ih =>
      have together := isSome_lowerItem? (f := f) (g := g) item
      cases left : lowerItem? f item <;> cases right : lowerItem? g item <;>
        simp_all

theorem lowerArguments_eq_iff {call : Node} :
    lowerArguments f call = lowerArguments g call ↔ ∀ m ∈ call.argumentOperands, f m = g m := by
  unfold lowerArguments Node.argumentOperands
  cases call.child? "arguments" with
  | none => simp
  | some arguments =>
      dsimp only
      split <;> simp [List.map_inj_left]

theorem lowerNode_eq_iff {n : Node} :
    lowerNode f n = lowerNode g n ↔ ∀ m ∈ n.operands, f m = g m := by
  unfold lowerNode Node.operands
  cases Form.ofKind n.kind with
  | wrapper => cases n.parts.head? <;> simp
  | member => cases object : n.child? "object" <;> simp [object]
  | subscript => cases object : n.child? "object" <;> simp [object]
  | array => simp [List.map_inj_left]
  | spread => simp [lowerChild_eq_iff]
  | object =>
      simp only [Term.object.injEq, and_true, filterMap_lowerItem?_eq_iff, lowerItem?_eq_iff,
        List.mem_filterMap]
      constructor
      · rintro same m ⟨item, member, brought⟩
        exact same item member m brought
      · intro same item member m brought
        exact same m ⟨item, member, brought⟩
  | conditional => simp [lowerChild_eq_iff, or_imp, forall_and]
  | binary =>
      dsimp only
      split <;> simp [lowerChild_eq_iff, or_imp, forall_and]
  | unary => simp [lowerChild_eq_iff]
  | update => simp [lowerChild_eq_iff]
  | call => simp [lowerChild_eq_iff, lowerArguments_eq_iff, or_imp, forall_and]
  | name => simp
  | other => simp

end

/-! ## Lowering without a limit -/

theorem lowerWithin_eq_of_size_le {budget other : Nat} {n : Node} (enough : n.size ≤ budget)
    (plenty : n.size ≤ other) : lowerWithin budget n = lowerWithin other n := by
  induction budget generalizing other n with
  | zero =>
      rw [Node.size_eq] at enough
      omega
  | succ budget ih =>
      cases other with
      | zero =>
          rw [Node.size_eq] at plenty
          omega
      | succ other =>
          have operands : lowerNode (lowerWithin budget) n = lowerNode (lowerWithin other) n := by
            refine lowerNode_eq_iff.2 fun m operand => ?_
            have smaller := Node.size_lt_of_operand operand
            exact ih (by omega) (by omega)
          rw [lowerWithin, lowerWithin, operands]

/-- Lowers an expression however deep it is: a tree has no more levels than nodes. -/
def lowerFully (n : Node) : Term := lowerWithin n.size n

theorem lowerFully_eq (n : Node) :
    lowerFully n = if n.missing then unexamined n else lowerNode lowerFully n := by
  have operands : lowerNode (lowerWithin n.size) n = lowerNode lowerFully n := by
    refine lowerNode_eq_iff.2 fun m operand => ?_
    have smaller := Node.size_lt_of_operand operand
    exact lowerWithin_eq_of_size_le (by omega) (Nat.le_refl _)
  rw [← operands, lowerFully, lowerWithin_eq_of_size_le (Nat.le_refl _) (Nat.le_succ _), lowerWithin]

/-! ## Calls and how deep they are made -/

theorem lowerAt_eq {depth : Int} (within : depth ≤ deepestLevel) (n : Node) :
    lowerAt depth n = if n.missing then unexamined n else lowerNode (lowerAt (depth + 1)) n := by
  have budget : budgetAt depth = budgetAt (depth + 1) + 1 := by
    unfold budgetAt
    omega
  rw [lowerAt, budget, lowerWithin]
  rfl

/-- A call of lowering on a node at a depth makes another one, a level further down. -/
inductive Calls : Int × Node → Int × Node → Prop
  | intro {depth : Int} {n m : Node} (within : depth ≤ deepestLevel) (present : n.missing = false)
      (operand : m ∈ n.operands) : Calls (depth, n) (depth + 1, m)

/-- Neither lowering the node at the depth nor any call that it leads to is made below the deepest
level. -/
def StaysWithin (depth : Int) (n : Node) : Prop :=
  ∀ call, Relation.ReflTransGen Calls (depth, n) call → call.1 ≤ deepestLevel

theorem staysWithin_iff {depth : Int} {n : Node} :
    StaysWithin depth n ↔ depth ≤ deepestLevel ∧
      (n.missing = false → ∀ m ∈ n.operands, StaysWithin (depth + 1) m) := by
  constructor
  · intro stays
    have within : depth ≤ deepestLevel := stays (depth, n) .refl
    refine ⟨within, fun present m operand call later => ?_⟩
    exact stays call (.head (.intro within present operand) later)
  · rintro ⟨within, below⟩ call calls
    rcases Relation.ReflTransGen.cases_head calls with rfl | ⟨next, first, later⟩
    · exact within
    · cases first with
      | intro _ present operand => exact below present _ operand call later

theorem lowerAt_eq_lowerFully {depth : Int} {n : Node} (stays : StaysWithin depth n) :
    lowerAt depth n = lowerFully n := by
  obtain ⟨within, below⟩ := staysWithin_iff.1 stays
  rw [lowerAt_eq within, lowerFully_eq]
  by_cases missing : n.missing = true
  · rw [if_pos missing, if_pos missing]
  · rw [if_neg missing, if_neg missing]
    refine lowerNode_eq_iff.2 fun m operand => ?_
    have smaller := Node.size_lt_of_operand operand
    exact lowerAt_eq_lowerFully (below (by simpa using missing) m operand)
termination_by n.size

end StyleAudit
