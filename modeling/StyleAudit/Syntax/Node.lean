import StyleAudit.Text.Utf8

/-!
Concrete syntax trees of component sources. A node carries its kind as the grammar spells it, the
field it fills in its parent, where it starts, and the bytes it covers. Tokens such as punctuation are
unnamed nodes; only named children are walked.
-/

namespace StyleAudit.Syntax

/-- A position counted from zero; columns count bytes. -/
structure Point where
  row : Nat
  column : Nat
  deriving Repr, DecidableEq, Inhabited

/-- A position counted from one, as reports show it. -/
structure Location where
  line : Nat
  column : Nat
  deriving Repr, DecidableEq, Inhabited

def Point.toLocation (p : Point) : Location := ⟨p.row + 1, p.column + 1⟩

/-- A node of a concrete syntax tree. A `missing` node was supplied by error recovery and covers no
source; a node may also have no text at all. -/
structure Node where
  kind : String
  named : Bool
  field : Option String
  missing : Bool
  start : Point
  text : Option (List UInt8)
  children : List Node
  deriving Inhabited

namespace Node

def location (n : Node) : Location := n.start.toLocation

def spelling (n : Node) : String :=
  match n.text with
  | some bytes => Text.Utf8.decode bytes
  | none => ""

def namedChildren (n : Node) : List Node :=
  n.children.filter (·.named)

/-- The named children that are no comments. -/
def parts (n : Node) : List Node :=
  n.namedChildren.filter fun child => child.kind != "comment"

def child? (n : Node) (field : String) : Option Node :=
  n.children.find? fun child => child.field == some field

mutual

def size : Node → Nat
  | ⟨_, _, _, _, _, _, children⟩ => 1 + sizeAll children

def sizeAll : List Node → Nat
  | [] => 0
  | n :: rest => n.size + sizeAll rest

end

theorem size_eq (n : Node) : n.size = 1 + sizeAll n.children := by
  cases n
  simp [size]

theorem sizeAll_append (ms ns : List Node) : sizeAll (ms ++ ns) = sizeAll ms + sizeAll ns := by
  induction ms with
  | nil => simp [sizeAll]
  | cons m rest ih => simp only [List.cons_append, sizeAll, ih, Nat.add_assoc]

theorem sizeAll_filter_le (p : Node → Bool) (ns : List Node) : sizeAll (ns.filter p) ≤ sizeAll ns := by
  induction ns with
  | nil => simp
  | cons n rest ih =>
    by_cases keep : p n
    · simp only [List.filter_cons, keep, if_true, sizeAll]
      omega
    · simp only [List.filter_cons, keep, Bool.false_eq_true, if_false, sizeAll]
      omega

end Node

end StyleAudit.Syntax
