import StyleAudit.Proofs.DepthLimit

/-!
# Wrappers do not matter

`Node.strip` puts the node inside a wrapper in the place of the wrapper, wherever lowering comes to one.
Lowering does not tell the two trees apart as long as it is not stopped by its limit; the limit is the
only thing a wrapper counts for. The proof follows the operands of a node: `Node.mapOperands` changes
them where they stand, and lowering the changed node is lowering the changed operands
(`lowerNode_mapOperands`).
-/

namespace StyleAudit.Syntax.Node

/-! ## Changing the operands of a node -/

def isPart (n : Node) : Bool := n.named && n.kind != "comment"

def modifyFirst (p : Node → Bool) (f : Node → Node) : List Node → List Node
  | [] => []
  | n :: rest => if p n then f n :: rest else n :: modifyFirst p f rest

def mapField (field : String) (f : Node → Node) (n : Node) : Node :=
  { n with children := modifyFirst (fun child => child.field == some field) f n.children }

def mapFirstPart (f : Node → Node) (n : Node) : Node :=
  { n with children := modifyFirst isPart f n.children }

def mapParts (f : Node → Node) (n : Node) : Node :=
  { n with children := n.children.map fun child => if child.isPart then f child else child }

def mapItem (f : Node → Node) (item : Node) : Node :=
  match item.kind with
  | "pair" => item.mapField "value" f
  | "shorthand_property_identifier" => f item
  | "spread_element" => f item
  | _ => item

def mapItems (f : Node → Node) (n : Node) : Node :=
  { n with children := n.children.map fun child => if child.named then mapItem f child else child }

def mapArguments (f : Node → Node) (arguments : Node) : Node :=
  if arguments.kind == "arguments" then arguments.mapParts f else arguments

/-- The node with its operands changed, each in its place. A wrapper stands for what is inside it and is
left alone. -/
def mapOperands (f : Node → Node) (n : Node) : Node :=
  match Form.ofKind n.kind with
  | .member => n.mapField "object" f
  | .subscript => n.mapField "object" f
  | .array => n.mapParts f
  | .spread => n.mapFirstPart f
  | .object => n.mapItems f
  | .conditional => ((n.mapField "condition" f).mapField "consequence" f).mapField "alternative" f
  | .binary => (n.mapField "left" f).mapField "right" f
  | .unary => n.mapField "argument" f
  | .update => n.mapField "argument" f
  | .call => (n.mapField "function" f).mapField "arguments" (mapArguments f)
  | .wrapper => n
  | .name => n
  | .other => n

/-- The two nodes differ in nothing but their children. -/
def SameButChildren (n m : Node) : Prop := ∃ children, m = { n with children := children }

theorem SameButChildren.refl (n : Node) : n.SameButChildren n := ⟨n.children, by cases n; rfl⟩

/-- A change of nodes that can be made in place: a node keeps its field and stays a part, and only the
children of a node that is no wrapper change. -/
structure KeepsPlace (f : Node → Node) : Prop where
  field (n : Node) : (f n).field = n.field
  part (n : Node) (part : n.isPart = true) : (f n).isPart = true
  bare (n : Node) (bare : Form.ofKind n.kind ≠ .wrapper) : n.SameButChildren (f n)

/-! ## Stripping -/

/-- The node that a wrapper stands for. -/
def inner? (n : Node) : Option Node :=
  if Form.ofKind n.kind = .wrapper then n.parts.head? else none

/-- Strips the first levels of a tree. -/
def stripWithin : Nat → Node → Node
  | 0, n => n
  | bound + 1, n =>
      if n.missing then n
      else
        match n.inner? with
        | some inner => { stripWithin bound inner with field := n.field }
        | none => n.mapOperands (stripWithin bound)

/-- The tree without the wrappers that lowering comes to. What is inside a wrapper takes its place and
the field that it fills. -/
def strip (n : Node) : Node := stripWithin n.size n

/-- Wherever lowering comes to in the tree, there is no wrapper around anything. -/
inductive Stripped : Node → Prop
  | intro {n : Node} (bare : n.missing = false → n.inner? = none)
      (operands : n.missing = false → ∀ m ∈ n.operands, Stripped m) : Stripped n

/-! ## Children after a change -/

section

variable {f g : Node → Node}

theorem find?_modifyFirst {p : Node → Bool} (kept : ∀ n, p n = true → p (f n) = true)
    (ns : List Node) : (modifyFirst p f ns).find? p = (ns.find? p).map f := by
  induction ns with
  | nil => rfl
  | cons n rest ih =>
      by_cases here : p n = true
      · simp [modifyFirst, here, kept n here]
      · simp [modifyFirst, here, ih]

theorem find?_modifyFirst_of_apart {p q : Node → Bool}
    (apart : ∀ n, p n = true → q n = false ∧ q (f n) = false) (ns : List Node) :
    (modifyFirst p f ns).find? q = ns.find? q := by
  induction ns with
  | nil => rfl
  | cons n rest ih =>
      by_cases here : p n = true
      · simp [modifyFirst, here, apart n here]
      · simp [modifyFirst, here, List.find?_cons, ih]

theorem child?_mapField (kept : ∀ n, (f n).field = n.field) (field name : String) (n : Node) :
    (n.mapField field f).child? name =
      if name = field then (n.child? name).map f else n.child? name := by
  unfold child? mapField
  split
  · rename_i same
    subst same
    exact find?_modifyFirst (by simp [kept]) n.children
  · rename_i apart
    refine find?_modifyFirst_of_apart ?_ n.children
    intro child filling
    have filled : child.field = some field := by simpa using filling
    have other : field ≠ name := fun equal => apart equal.symm
    simp [kept, filled, other]

theorem parts_eq (n : Node) : n.parts = n.children.filter isPart := by
  rw [parts, namedChildren, List.filter_filter]
  simp only [Bool.and_comm]
  rfl

theorem head?_parts (n : Node) : n.parts.head? = n.children.find? isPart := by
  rw [parts_eq, List.head?_filter]

theorem head?_parts_mapFirstPart (kept : ∀ n, n.isPart = true → (f n).isPart = true) (n : Node) :
    (n.mapFirstPart f).parts.head? = n.parts.head?.map f := by
  rw [head?_parts, head?_parts]
  exact find?_modifyFirst kept n.children

theorem parts_mapParts (kept : ∀ n, n.isPart = true → (f n).isPart = true) (n : Node) :
    (n.mapParts f).parts = n.parts.map f := by
  rw [parts_eq, parts_eq, mapParts]
  induction n.children with
  | nil => rfl
  | cons child rest ih =>
      by_cases part : child.isPart = true
      · simp only [List.map_cons, part, if_true, List.filter_cons, kept child part, ih]
      · simp only [List.map_cons, part, Bool.false_eq_true, if_false, List.filter_cons, ih]

theorem sameButChildren_mapItem (kept : KeepsPlace f) (item : Node) :
    item.SameButChildren (mapItem f item) := by
  unfold mapItem
  split <;> rename_i kind
  · exact ⟨_, rfl⟩
  · exact kept.bare item (by rw [kind]; decide)
  · exact kept.bare item (by rw [kind]; decide)
  · exact .refl item

theorem namedChildren_mapItems (kept : KeepsPlace f) (n : Node) :
    (n.mapItems f).namedChildren = n.namedChildren.map (mapItem f) := by
  rw [namedChildren, namedChildren, mapItems]
  induction n.children with
  | nil => rfl
  | cons child rest ih =>
      by_cases named : child.named = true
      · obtain ⟨children, item⟩ := sameButChildren_mapItem kept child
        have still : (mapItem f child).named = true := by rw [item, named]
        simp only [List.map_cons, named, if_true, List.filter_cons, still, ih]
      · simp only [List.map_cons, named, Bool.false_eq_true, if_false, List.filter_cons, ih]

theorem field_mapArguments (f : Node → Node) (n : Node) : (mapArguments f n).field = n.field := by
  unfold mapArguments
  split <;> rfl

/-! ## Operands after a change -/

theorem sameButChildren_mapOperands (f : Node → Node) (n : Node) :
    n.SameButChildren (n.mapOperands f) := by
  unfold mapOperands
  cases Form.ofKind n.kind with
  | wrapper => exact .refl n
  | name => exact .refl n
  | other => exact .refl n
  | _ => exact ⟨_, rfl⟩

theorem itemOperand?_mapItem (kept : KeepsPlace f) (item : Node) :
    (mapItem f item).itemOperand? = item.itemOperand?.map f := by
  obtain ⟨children, same⟩ := sameButChildren_mapItem kept item
  have kind : (mapItem f item).kind = item.kind := by rw [same]
  rw [itemOperand?, kind, itemOperand?, mapItem]
  generalize item.kind = kind
  split
  · exact (child?_mapField kept.field "value" "value" item).trans (if_pos rfl)
  · rfl
  · rfl
  · rfl

theorem argumentOperands_mapField (kept : KeepsPlace f) (n : Node) :
    (n.mapField "arguments" (mapArguments f)).argumentOperands = n.argumentOperands.map f := by
  rw [argumentOperands, child?_mapField (field_mapArguments f), if_pos rfl, argumentOperands]
  cases n.child? "arguments" with
  | none => rfl
  | some arguments =>
      by_cases list : arguments.kind = "arguments"
      · have still : (arguments.mapParts f).kind = "arguments" := list
        simp [mapArguments, list, still, parts_mapParts kept.part]
      · simp [mapArguments, list]

theorem filterMap_child?_of_mapped {n m : Node} {fields : List String}
    (mapped : ∀ field ∈ fields, m.child? field = (n.child? field).map f) :
    fields.filterMap m.child? = (fields.filterMap n.child?).map f := by
  rw [List.map_filterMap]
  exact List.filterMap_congr mapped

theorem operands_mapOperands (kept : KeepsPlace f) {n : Node} (bare : n.inner? = none) :
    (n.mapOperands f).operands = n.operands.map f := by
  obtain ⟨children, same⟩ := sameButChildren_mapOperands f n
  have kind : (n.mapOperands f).kind = n.kind := by rw [same]
  have child := child?_mapField kept.field
  rw [operands, kind, mapOperands, operands]
  cases form : Form.ofKind n.kind with
  | wrapper =>
      have empty : n.parts.head? = none := by simpa [inner?, form] using bare
      simp [empty]
  | member => exact filterMap_child?_of_mapped (by simp [child])
  | subscript => exact filterMap_child?_of_mapped (by simp [child])
  | array => exact parts_mapParts kept.part n
  | spread =>
      simp only [head?_parts_mapFirstPart kept.part]
      cases n.parts.head? <;> rfl
  | object =>
      simp only [namedChildren_mapItems kept, List.filterMap_map, List.map_filterMap]
      exact List.filterMap_congr fun item _ => itemOperand?_mapItem kept item
  | conditional => exact filterMap_child?_of_mapped (by simp [child])
  | binary => exact filterMap_child?_of_mapped (by simp [child])
  | unary => exact filterMap_child?_of_mapped (by simp [child])
  | update => exact filterMap_child?_of_mapped (by simp [child])
  | call =>
      have callee : ∀ field ∈ ["function"], ((n.mapField "function" f).mapField "arguments"
          (mapArguments f)).child? field = (n.child? field).map f := by
        simp [child, child?_mapField (field_mapArguments f)]
      have list : (n.mapField "function" f).argumentOperands = n.argumentOperands := by
        simp [argumentOperands, child]
      simp only [filterMap_child?_of_mapped callee, argumentOperands_mapField kept, list,
        List.map_append]
  | name => rfl
  | other => rfl

end

/-! ## Stripping keeps places -/

theorem inner?_eq_none {n : Node} (bare : Form.ofKind n.kind ≠ .wrapper) : n.inner? = none :=
  if_neg bare

theorem inner?_eq_some_iff {n inner : Node} :
    n.inner? = some inner ↔ Form.ofKind n.kind = .wrapper ∧ n.parts.head? = some inner := by
  simp [inner?]

theorem inner?_mapOperands {n : Node} (bare : n.inner? = none) (f : Node → Node) :
    (n.mapOperands f).inner? = none := by
  by_cases form : Form.ofKind n.kind = .wrapper
  · rwa [mapOperands, form]
  · obtain ⟨children, same⟩ := sameButChildren_mapOperands f n
    rw [same]
    exact inner?_eq_none form

theorem isPart_of_inner? {n inner : Node} (inside : n.inner? = some inner) : inner.isPart = true := by
  have first := (inner?_eq_some_iff.1 inside).2
  rw [head?_parts] at first
  exact List.find?_some first

theorem stripWithin_cases (bound : Nat) (n : Node) :
    (n.missing = true ∧ stripWithin (bound + 1) n = n) ∨
    (∃ inner, n.missing = false ∧ n.inner? = some inner ∧
      stripWithin (bound + 1) n = { stripWithin bound inner with field := n.field }) ∨
    (n.missing = false ∧ n.inner? = none ∧
      stripWithin (bound + 1) n = n.mapOperands (stripWithin bound)) := by
  cases present : n.missing with
  | true => exact .inl ⟨rfl, by simp [stripWithin, present]⟩
  | false =>
      cases inside : n.inner? with
      | some inner => exact .inr (.inl ⟨inner, rfl, rfl, by simp [stripWithin, present, inside]⟩)
      | none => exact .inr (.inr ⟨rfl, rfl, by simp [stripWithin, present, inside]⟩)

theorem keepsPlace_stripWithin (bound : Nat) : KeepsPlace (stripWithin bound) := by
  induction bound with
  | zero => exact ⟨fun _ => rfl, fun _ part => part, fun n _ => .refl n⟩
  | succ bound ih =>
      have operands : ∀ n : Node, n.SameButChildren (n.mapOperands (stripWithin bound)) :=
        sameButChildren_mapOperands _
      refine ⟨fun n => ?_, fun n part => ?_, fun n bare => ?_⟩
      · obtain ⟨-, same⟩ | ⟨inner, -, -, same⟩ | ⟨-, -, same⟩ := stripWithin_cases bound n
        · rw [same]
        · rw [same]
        · obtain ⟨children, changed⟩ := operands n
          rw [same, changed]
      · obtain ⟨-, same⟩ | ⟨inner, -, inside, same⟩ | ⟨-, -, same⟩ := stripWithin_cases bound n
        · rw [same, part]
        · rw [same]
          exact ih.part inner (isPart_of_inner? inside)
        · obtain ⟨children, changed⟩ := operands n
          rw [same, changed]
          exact part
      · obtain ⟨-, same⟩ | ⟨inner, -, inside, -⟩ | ⟨-, -, same⟩ := stripWithin_cases bound n
        · rw [same]
          exact .refl n
        · exact absurd (inner?_eq_some_iff.1 inside).1 bare
        · rw [same]
          exact operands n

theorem stripped_stripWithin {bound : Nat} {n : Node} (enough : n.size ≤ bound) :
    (stripWithin bound n).Stripped := by
  induction bound generalizing n with
  | zero =>
      rw [size_eq] at enough
      omega
  | succ bound ih =>
      obtain ⟨missing, same⟩ | ⟨inner, -, inside, same⟩ | ⟨present, bare, same⟩ :=
        stripWithin_cases bound n
      · rw [same]
        exact .intro (by simp [missing]) (by simp [missing])
      · have smaller := size_lt_of_part (List.mem_of_head? (inner?_eq_some_iff.1 inside).2)
        rw [same]
        -- The field that a node fills does not show in what lowering sees of it.
        obtain ⟨bare, operands⟩ := ih (n := inner) (by omega)
        exact .intro bare operands
      · have kept := keepsPlace_stripWithin bound
        rw [same]
        refine .intro (fun _ => inner?_mapOperands bare _) (fun _ m operand => ?_)
        rw [operands_mapOperands kept bare] at operand
        obtain ⟨original, member, rfl⟩ := List.mem_map.1 operand
        have smaller := size_lt_of_operand member
        exact ih (by omega)

theorem stripped_strip (n : Node) : n.strip.Stripped := stripped_stripWithin (Nat.le_refl _)

end StyleAudit.Syntax.Node

namespace StyleAudit

open Syntax

/-! ## Lowering a stripped tree -/

section

variable {f : Node → Node} {lower : Node → Term}

theorem lowerChild_map (n : Option Node) : lowerChild lower (n.map f) = lowerChild (lower ∘ f) n := by
  cases n <;> rfl

theorem lowerItem?_mapItem (kept : Node.KeepsPlace f) (item : Node) :
    lowerItem? lower (item.mapItem f) = lowerItem? (lower ∘ f) item := by
  obtain ⟨children, same⟩ := Node.sameButChildren_mapItem kept item
  have kind : (item.mapItem f).kind = item.kind := by rw [same]
  have loc : (item.mapItem f).location = item.location := by rw [same]; rfl
  have key : staticKey (item.mapItem f) = staticKey item := by rw [same]; rfl
  have child := Node.child?_mapField kept.field
  unfold lowerItem?
  rw [kind, loc, key]
  split <;> rename_i kind
  · simp [Node.mapItem, kind, child, lowerChild_map]
  · simp [Node.mapItem, kind]
  · simp [Node.mapItem, kind]
  · simp [Node.mapItem, kind]
  · rfl

theorem lowerArguments_mapField (kept : Node.KeepsPlace f) (n : Node) :
    lowerArguments lower (n.mapField "arguments" (Node.mapArguments f)) =
      lowerArguments (lower ∘ f) n := by
  rw [lowerArguments, Node.child?_mapField (Node.field_mapArguments f), if_pos rfl, lowerArguments]
  cases n.child? "arguments" with
  | none => rfl
  | some arguments =>
      by_cases list : arguments.kind = "arguments"
      · have still : (arguments.mapParts f).kind = "arguments" := list
        simp [Node.mapArguments, list, still, Node.parts_mapParts kept.part]
      · simp [Node.mapArguments, list]

theorem operatorOf_mapField (kept : ∀ n, (f n).field = n.field) {field : String}
    (apart : "operator" ≠ field) (n : Node) : operatorOf (n.mapField field f) = operatorOf n := by
  rw [operatorOf, Node.child?_mapField kept, if_neg apart, operatorOf]

theorem lowerNode_mapOperands (kept : Node.KeepsPlace f) {n : Node} (bare : n.inner? = none) :
    lowerNode lower (n.mapOperands f) = lowerNode (lower ∘ f) n := by
  obtain ⟨children, same⟩ := Node.sameButChildren_mapOperands f n
  have kind : (n.mapOperands f).kind = n.kind := by rw [same]
  have loc : (n.mapOperands f).location = n.location := by rw [same]; rfl
  have stopped : unexamined (n.mapOperands f) = unexamined n := by rw [same]; rfl
  have child := Node.child?_mapField kept.field
  have operator := @operatorOf_mapField f kept.field
  unfold lowerNode
  rw [kind, loc, stopped, Node.mapOperands]
  cases form : Form.ofKind n.kind with
  | wrapper =>
      -- A wrapper around nothing has no operand and is left as it is.
      have empty : n.parts.head? = none := by simpa [Node.inner?, form] using bare
      simp [empty]
  | name => rfl
  | member => cases object : n.child? "object" <;> simp [child, object]
  | subscript => cases object : n.child? "object" <;> simp [child, object]
  | array => simp [Node.parts_mapParts kept.part]
  | spread => simp [Node.head?_parts_mapFirstPart kept.part, lowerChild_map]
  | object =>
      have items : lowerItem? lower ∘ Node.mapItem f = lowerItem? (lower ∘ f) :=
        funext (lowerItem?_mapItem kept)
      simp only [Node.namedChildren_mapItems kept, List.filterMap_map, items]
  | conditional => simp [child, lowerChild_map]
  | binary => simp [child, lowerChild_map, operator]
  | unary => simp [child, lowerChild_map, operator]
  | update => simp [child, lowerChild_map, operator]
  | call =>
      have list : lowerArguments (lower ∘ f) (n.mapField "function" f) = lowerArguments (lower ∘ f) n := by
        simp [lowerArguments, child]
      simp [child, Node.child?_mapField (Node.field_mapArguments f), lowerChild_map,
        lowerArguments_mapField kept, list]
  | other => rfl

end

theorem lowerNode_of_inner? {n inner : Node} (inside : n.inner? = some inner) (lower : Node → Term) :
    lowerNode lower n = lower inner := by
  obtain ⟨form, first⟩ := Node.inner?_eq_some_iff.1 inside
  simp [lowerNode, form, first]

theorem operands_of_inner? {n inner : Node} (inside : n.inner? = some inner) :
    n.operands = [inner] := by
  obtain ⟨form, first⟩ := Node.inner?_eq_some_iff.1 inside
  simp [Node.operands, form, first]

theorem lowerFully_filling (n : Node) (field : Option String) :
    lowerFully { n with field := field } = lowerFully n := by
  rw [lowerFully_eq, lowerFully_eq n]
  rfl

theorem lowerFully_stripWithin (bound : Nat) (n : Node) :
    lowerFully (n.stripWithin bound) = lowerFully n := by
  induction bound generalizing n with
  | zero => rfl
  | succ bound ih =>
      obtain ⟨-, same⟩ | ⟨inner, present, inside, same⟩ | ⟨present, bare, same⟩ :=
        Node.stripWithin_cases bound n
      · rw [same]
      · rw [same, lowerFully_filling, ih, lowerFully_eq n, lowerNode_of_inner? inside]
        simp [present]
      · have kept := Node.keepsPlace_stripWithin bound
        have below : lowerFully ∘ Node.stripWithin bound = lowerFully := funext ih
        obtain ⟨children, changed⟩ := Node.sameButChildren_mapOperands (Node.stripWithin bound) n
        have there : (n.mapOperands (Node.stripWithin bound)).missing = false := by
          rw [changed, present]
        rw [same, lowerFully_eq, lowerFully_eq n, lowerNode_mapOperands kept bare, below]
        simp [present, there]

/-! ## Depth of a stripped tree -/

theorem staysWithin_of_le {depth deeper : Int} {n : Node} (above : depth ≤ deeper)
    (stays : StaysWithin deeper n) : StaysWithin depth n := by
  obtain ⟨within, below⟩ := staysWithin_iff.1 stays
  refine staysWithin_iff.2 ⟨by omega, fun present m operand => ?_⟩
  have smaller := Node.size_lt_of_operand operand
  exact staysWithin_of_le (by omega) (below present m operand)
termination_by n.size

theorem staysWithin_filling {depth : Int} {n : Node} (stays : StaysWithin depth n)
    (field : Option String) : StaysWithin depth { n with field := field } := by
  obtain ⟨within, below⟩ := staysWithin_iff.1 stays
  exact staysWithin_iff.2 ⟨within, below⟩

theorem staysWithin_stripWithin {depth : Int} (bound : Nat) {n : Node} (stays : StaysWithin depth n) :
    StaysWithin depth (n.stripWithin bound) := by
  induction bound generalizing depth n with
  | zero => exact stays
  | succ bound ih =>
      obtain ⟨within, below⟩ := staysWithin_iff.1 stays
      obtain ⟨-, same⟩ | ⟨inner, present, inside, same⟩ | ⟨present, bare, same⟩ :=
        Node.stripWithin_cases bound n
      · rwa [same]
      · rw [operands_of_inner? inside] at below
        have inner := ih (below present inner List.mem_cons_self)
        rw [same]
        exact staysWithin_filling (staysWithin_of_le (by omega) inner) n.field
      · have kept := Node.keepsPlace_stripWithin bound
        rw [same]
        refine staysWithin_iff.2 ⟨within, fun _ m operand => ?_⟩
        rw [Node.operands_mapOperands kept bare] at operand
        obtain ⟨original, member, rfl⟩ := List.mem_map.1 operand
        exact ih (below present original member)

theorem wrappers_are_transparent {depth : Int} {n : Node} (stays : StaysWithin depth n) :
    n.strip.Stripped ∧ lowerAt depth n.strip = lowerAt depth n ∧
    (lowerAt depth n.strip).isStyleFactoryCall = (lowerAt depth n).isStyleFactoryCall ∧
    ∀ containers, styleNames containers (lowerAt depth n.strip) =
      styleNames containers (lowerAt depth n) := by
  have same : lowerAt depth n.strip = lowerAt depth n := by
    have again : StaysWithin depth n.strip := staysWithin_stripWithin _ stays
    rw [lowerAt_eq_lowerFully stays, lowerAt_eq_lowerFully again]
    exact lowerFully_stripWithin _ n
  refine ⟨n.stripped_strip, same, ?_, fun containers => ?_⟩
  · rw [same]
  · rw [same]

namespace Sample

def boxOf (object : Node) : Node :=
  tree "member_expression" [object.filling "object",
    (word "property_identifier" [0x62, 0x6f, 0x78]).filling "property"]

/-- The tree of `(/**/s!).box`. -/
def coveredObject : Node :=
  boxOf (tree "parenthesized_expression" [word "comment" [0x2f, 0x2a, 0x2a, 0x2f],
    tree "non_null_expression" [word "identifier" [0x73]]])

theorem staysWithin_coveredObject : StaysWithin 97 coveredObject := by
  refine staysWithin_iff.2 ⟨by decide, fun _ wrapper operand => ?_⟩
  obtain rfl := List.mem_singleton.1 operand
  refine staysWithin_iff.2 ⟨by decide, fun _ inner operand => ?_⟩
  obtain rfl := List.mem_singleton.1 operand
  refine staysWithin_iff.2 ⟨by decide, fun _ name operand => ?_⟩
  obtain rfl := List.mem_singleton.1 operand
  exact staysWithin_iff.2 ⟨by decide, fun _ _ operand => by cases operand⟩

end Sample

open Sample in
theorem wrappers_are_transparent_sample :
    StaysWithin 97 coveredObject ∧ coveredObject.strip = boxOf (word "identifier" [0x73]) ∧
    lowerAt 97 (boxOf (word "identifier" [0x73])) = lowerAt 97 coveredObject := by
  have stripped : coveredObject.strip = boxOf (word "identifier" [0x73]) := rfl
  have same := (wrappers_are_transparent staysWithin_coveredObject).2.1
  rw [stripped] at same
  exact ⟨staysWithin_coveredObject, stripped, same⟩

end StyleAudit
