import StyleAudit.Proofs.DirectReference

/-!
# The objects whose entries declare styles

A declarator binds an object node when its value is, through wrappers, a call of the factory and the
object is, through wrappers, the first argument of the call. `Node.BindsObject` states this on the
concrete tree and counts the levels down to the object. Such a declarator declares a container. As long
as the object is within the levels that lowering examines, the container has one member for each entry
with a static key (`declaration?_of_bindsObject`), and a declarator that has members after lowering is
one of these (`bindsObject_of_members`).
-/

namespace StyleAudit.Syntax.Node

/-- The node that gives an entry of an object its key. -/
def keyNode? (e : Node) : Option Node :=
  match e.kind with
  | "pair" => e.child? "key"
  | "shorthand_property_identifier" => some e
  | "method_definition" => e.child? "name"
  | _ => none

def styleKey? (e : Node) : Option String := e.keyNode?.bind staticKey

/-- The declarator `d` binds the container to a factory call whose first argument is `object`, so many
levels below the value. -/
inductive BindsObject : Node → String → Nat → Node → Prop
  | intro {d name value call arguments first object : Node} {outer inner : Nat} {s : Site}
      (kind : d.kind = "variable_declarator")
      (target : d.child? "name" = some name) (identifier : name.kind = "identifier")
      (init : d.child? "value" = some value) (wrapped : value.Unwraps outer call)
      (called : call.kind = "call_expression")
      (listed : call.child? "arguments" = some arguments) (list : arguments.kind = "arguments")
      (leading : arguments.parts.head? = some first) (covered : first.Unwraps inner object)
      (literal : object.kind = "object") (present : object.missing = false)
      (lowered : lowerSite? d = some s) (definition : s.isContainerDefinition = true) :
      BindsObject d name.spelling (outer + 1 + inner) object

theorem Unwraps.unique {i j : Nat} {n m l : Node} (first : n.Unwraps i m) (second : n.Unwraps j l)
    (bare : m.kind ∉ wrapperKinds) (plain : l.kind ∉ wrapperKinds) : m = l ∧ i = j := by
  induction first generalizing j with
  | here n =>
      cases second with
      | here => exact ⟨rfl, rfl⟩
      | step _ kind _ _ => exact absurd kind bare
  | step _ kind inner _ ih =>
      cases second with
      | here => exact absurd kind plain
      | step _ _ other rest =>
          obtain rfl := Option.some.inj (inner.symm.trans other)
          obtain ⟨same, levels⟩ := ih rest bare
          exact ⟨same, congrArg (· + 1) levels⟩

theorem BindsObject.unique {d object other : Node} {container name : String} {levels deep : Nat}
    (first : d.BindsObject container levels object) (second : d.BindsObject name deep other) :
    object = other := by
  cases first with
  | intro _ _ _ init wrapped called listed _ leading covered literal _ _ _ =>
      cases second with
      | intro _ _ _ init' wrapped' called' listed' _ leading' covered' literal' _ _ _ =>
          obtain rfl := Option.some.inj (init.symm.trans init')
          obtain ⟨rfl, -⟩ := wrapped.unique wrapped' (by rw [called]; decide) (by rw [called']; decide)
          obtain rfl := Option.some.inj (listed.symm.trans listed')
          obtain rfl := Option.some.inj (leading.symm.trans leading')
          exact (covered.unique covered' (by rw [literal]; decide) (by rw [literal']; decide)).1

end StyleAudit.Syntax.Node

namespace StyleAudit

open Syntax

/-! ## Kinds -/

def Form.kinds : Form → List String
  | wrapper => Node.wrapperKinds
  | name => ["identifier", "shorthand_property_identifier"]
  | member => ["member_expression"]
  | subscript => ["subscript_expression"]
  | array => ["array"]
  | spread => ["spread_element"]
  | object => ["object"]
  | conditional => ["ternary_expression"]
  | binary => ["binary_expression"]
  | unary => ["unary_expression"]
  | update => ["update_expression"]
  | call => ["call_expression"]
  | other => []

theorem mem_kinds_of_ofKind {kind : String} {form : Form} (named : Form.ofKind kind = form)
    (known : form ≠ .other) : kind ∈ form.kinds := by
  subst named
  unfold Form.ofKind at known ⊢
  split <;> simp [Form.kinds, Node.wrapperKinds] at known ⊢

theorem kind_of_shape_binding {kind : String} (shape : Shape.ofKind? kind = some .binding) :
    kind = "variable_declarator" := by
  unfold Shape.ofKind? at shape
  split at shape <;> cases shape
  rfl

/-! ## From terms back to nodes -/

/-- Lowering takes off wrappers and then either stops or looks at the node inside them. -/
theorem lowerWithin_inversion (budget : Nat) (n : Node) :
    ∃ wraps m, n.Unwraps wraps m ∧ (lowerWithin budget n = unexamined m ∨
      ∃ rest, budget = rest + 1 + wraps ∧ m.missing = false ∧ Form.ofKind m.kind ≠ .wrapper ∧
        lowerWithin budget n = lowerNode (lowerWithin rest) m) := by
  induction budget generalizing n with
  | zero => exact ⟨0, n, .here n, .inl rfl⟩
  | succ budget ih =>
      by_cases missing : n.missing = true
      · exact ⟨0, n, .here n, .inl (by simp [lowerWithin, missing])⟩
      · have present : n.missing = false := by simpa using missing
        by_cases form : Form.ofKind n.kind = .wrapper
        · cases inside : n.parts.head? with
          | none =>
              refine ⟨0, n, .here n, .inl ?_⟩
              rw [lowerWithin_of_present present, lowerNode]
              simp [form, inside]
          | some inner =>
              have kind := mem_kinds_of_ofKind form (by simp)
              -- A wrapper costs one level, which the levels for the node inside make up for.
              obtain ⟨wraps, m, unwraps, found⟩ := ih inner
              refine ⟨wraps + 1, m, .step present kind inside unwraps, ?_⟩
              rw [lowerWithin_wrapper present kind inside]
              rcases found with stopped | ⟨rest, levels, there, bare, examined⟩
              · exact .inl stopped
              · exact .inr ⟨rest, by omega, there, bare, examined⟩
        · exact ⟨0, n, .here n, .inr ⟨budget, rfl, present, form, lowerWithin_of_present present budget⟩⟩

/-- The forms of node from which a term of this shape can come. -/
def Term.forms : Term → List Form
  | .identifier .. => [.name]
  | .member .. => [.member, .subscript]
  | .array .. => [.array]
  | .spread .. => [.spread]
  | .object .. => [.object]
  | .conditional .. => [.conditional]
  | .logical .. | .binary .. => [.binary]
  | .unary .. => [.unary]
  | .update .. => [.update]
  | .call .. => [.call]
  | _ => []

theorem form_of_lowerNode (lower : Node → Term) {n : Node} (bare : Form.ofKind n.kind ≠ .wrapper) :
    lowerNode lower n = unexamined n ∨ Form.ofKind n.kind ∈ (lowerNode lower n).forms := by
  unfold lowerNode
  cases form : Form.ofKind n.kind with
  | wrapper => exact absurd form bare
  | other => exact .inl rfl
  | member => cases n.child? "object" <;> simp [Term.forms]
  | subscript => cases n.child? "object" <;> simp [Term.forms]
  | binary =>
      right
      dsimp only
      split <;> simp [Term.forms]
  | _ => exact .inr (List.mem_singleton.2 rfl)

theorem lowerWithin_of_forms {budget : Nat} {n : Node} {form : Form}
    (only : (lowerWithin budget n).forms = [form]) :
    ∃ wraps m rest, n.Unwraps wraps m ∧ budget = rest + 1 + wraps ∧ m.missing = false ∧
      Form.ofKind m.kind = form ∧ lowerWithin budget n = lowerNode (lowerWithin rest) m := by
  obtain ⟨wraps, m, unwraps, stopped | ⟨rest, levels, present, bare, examined⟩⟩ :=
    lowerWithin_inversion budget n
  · rw [stopped] at only
    cases only
  · refine ⟨wraps, m, rest, unwraps, levels, present, ?_, examined⟩
    rcases form_of_lowerNode (lowerWithin rest) bare with stopped | known
    · rw [examined, stopped] at only
      cases only
    · rw [← examined, only] at known
      exact List.mem_singleton.1 known

theorem lowerWithin_eq_call {budget : Nat} {n : Node} {callee : Term} {arguments : List Term}
    {loc : Location} (lowered : lowerWithin budget n = .call callee arguments loc) :
    ∃ wraps m rest, n.Unwraps wraps m ∧ budget = rest + 1 + wraps ∧ m.kind = "call_expression" ∧
      arguments = lowerArguments (lowerWithin rest) m := by
  have only : (lowerWithin budget n).forms = [.call] := by rw [lowered]; rfl
  obtain ⟨wraps, m, rest, unwraps, levels, -, form, examined⟩ := lowerWithin_of_forms only
  rw [lowered, lowerNode, form] at examined
  exact ⟨wraps, m, rest, unwraps, levels,
    List.mem_singleton.1 (mem_kinds_of_ofKind form (by simp)), (Term.call.inj examined).2.1⟩

theorem lowerWithin_eq_object {budget : Nat} {n : Node} {entries : List Term} {loc : Location}
    (lowered : lowerWithin budget n = .object entries loc) :
    ∃ wraps m rest, n.Unwraps wraps m ∧ budget = rest + 1 + wraps ∧ m.kind = "object" ∧
      m.missing = false ∧ entries = m.namedChildren.filterMap (lowerItem? (lowerWithin rest)) := by
  have only : (lowerWithin budget n).forms = [.object] := by rw [lowered]; rfl
  obtain ⟨wraps, m, rest, unwraps, levels, present, form, examined⟩ := lowerWithin_of_forms only
  rw [lowered, lowerNode, form] at examined
  exact ⟨wraps, m, rest, unwraps, levels,
    List.mem_singleton.1 (mem_kinds_of_ofKind form (by simp)), present, (Term.object.inj examined).1⟩

theorem lowerPattern_eq_identifier {n : Option Node} {name : String} {loc : Location}
    (lowered : lowerPattern n = .identifier name loc) :
    ∃ m, n = some m ∧ m.kind = "identifier" ∧ m.spelling = name := by
  cases n with
  | none => cases lowered
  | some m =>
      simp only [lowerPattern] at lowered
      split at lowered
      · rename_i kind
        exact ⟨m, rfl, kind, (Term.identifier.inj lowered).1⟩
      · cases lowered
      · cases lowered

theorem head_of_lowerArguments {lower : Node → Term} {call : Node} {first : Term} {rest : List Term}
    (lowered : first :: rest = lowerArguments lower call) :
    ∃ arguments m, call.child? "arguments" = some arguments ∧ arguments.kind = "arguments" ∧
      arguments.parts.head? = some m ∧ first = lower m := by
  unfold lowerArguments at lowered
  cases listed : call.child? "arguments" with
  | none => simp [listed] at lowered
  | some arguments =>
      by_cases list : arguments.kind = "arguments"
      · cases parts : arguments.parts with
        | nil => simp [listed, list, parts] at lowered
        | cons m more =>
            simp only [listed, list, parts, beq_self_eq_true, if_true, List.map_cons,
              List.cons.injEq] at lowered
            exact ⟨arguments, m, rfl, list, by rw [parts, List.head?_cons], lowered.1⟩
      · simp [listed, list] at lowered

/-! ## Members -/

def styleMember? (lower : Node → Term) (e : Node) : Option (String × Entry) :=
  (lowerItem? lower e).bind Term.staticMember?

theorem staticMember?_lowerWithin (budget : Nat) (n : Node) :
    (lowerWithin budget n).staticMember? = none := by
  obtain ⟨wraps, m, -, stopped | ⟨rest, -, -, bare, examined⟩⟩ := lowerWithin_inversion budget n
  · rw [stopped]
    rfl
  · rcases form_of_lowerNode (lowerWithin rest) bare with stopped | known
    · rw [examined, stopped]
      rfl
    · rw [← examined] at known
      cases lowered : lowerWithin budget n with
      | property key value loc =>
          rw [lowered] at known
          cases known
      | _ => rfl

theorem styleMember?_eq (budget : Nat) (e : Node) :
    ∃ value, styleMember? (lowerWithin budget) e =
      e.styleKey?.map fun key => (key, ⟨some key, value, e.location⟩) := by
  have property : ∀ key value, Term.staticMember? (.property key value e.location) =
      key.map fun key => (key, ⟨some key, value, e.location⟩) := by
    intro key value
    cases key <;> rfl
  unfold styleMember? lowerItem?
  split
  · rename_i kind
    exact ⟨_, by rw [Node.styleKey?, Node.keyNode?, kind]; exact property _ _⟩
  · rename_i kind
    exact ⟨_, by rw [Node.styleKey?, Node.keyNode?, kind]; exact property _ _⟩
  · rename_i kind
    exact ⟨_, by rw [Node.styleKey?, Node.keyNode?, kind]; exact property _ _⟩
  · rename_i kind
    refine ⟨.absent, ?_⟩
    rw [Node.styleKey?, Node.keyNode?, kind]
    exact staticMember?_lowerWithin budget e
  · rename_i pair shorthand method _
    have unkeyed : e.keyNode? = none := by
      unfold Node.keyNode?
      split <;> first | contradiction | rfl
    exact ⟨.absent, by rw [Node.styleKey?, unkeyed]; rfl⟩

theorem styleMember?_eq_some {budget : Nat} {e : Node} {key : String} {entry : Entry}
    (member : styleMember? (lowerWithin budget) e = some (key, entry)) :
    e.styleKey? = some key ∧ entry.loc = e.location := by
  obtain ⟨value, equal⟩ := styleMember?_eq budget e
  rw [equal] at member
  obtain ⟨known, keyed, pair⟩ := Option.map_eq_some_iff.1 member
  obtain ⟨rfl, rfl⟩ := Prod.mk.inj pair
  exact ⟨keyed, rfl⟩

theorem styleMember?_of_styleKey? {e : Node} {key : String} (keyed : e.styleKey? = some key)
    (budget : Nat) : ∃ entry, styleMember? (lowerWithin budget) e = some (key, entry) := by
  obtain ⟨value, equal⟩ := styleMember?_eq budget e
  exact ⟨_, by rw [equal, keyed, Option.map_some]⟩

theorem staticMembers_object (budget : Nat) (object : Node) (loc : Location) :
    (Term.object (object.namedChildren.filterMap (lowerItem? (lowerWithin budget))) loc).staticMembers =
      object.namedChildren.filterMap (styleMember? (lowerWithin budget)) := by
  rw [Term.staticMembers, List.filterMap_filterMap]
  rfl

/-! ## Declarators and their members -/

theorem lowerSite?_declarator {d : Node} (kind : d.kind = "variable_declarator") :
    lowerSite? d = some (.binding (lowerPattern (d.child? "name"))
      (lowerChild lowerExpression (d.child? "value")) d.location) := by
  have shape : Shape.ofKind? d.kind = some .binding := by rw [kind]; rfl
  rw [lowerSite?, shape]

theorem lowerPattern_identifier {n : Node} (identifier : n.kind = "identifier") :
    lowerPattern (some n) = .identifier n.spelling n.location := by
  simp [lowerPattern, identifier]

/-- Lowering goes down so many levels. -/
def Examined (levels : Nat) : Prop := (levels : Int) ≤ deepestLevel

instance (levels : Nat) : Decidable (Examined levels) :=
  inferInstanceAs (Decidable ((levels : Int) ≤ deepestLevel))

theorem examined_iff (levels : Nat) : Examined levels ↔ ∃ spare, budgetAt 0 = spare + 1 + levels := by
  simp only [Examined, budgetAt, deepestLevel]
  constructor
  · intro within
    exact ⟨100 - levels, by omega⟩
  · rintro ⟨spare, budget⟩
    omega

theorem lowerExpression_unwraps {wraps rest : Nat} {n m : Node} (unwraps : n.Unwraps wraps m)
    (levels : budgetAt 0 = rest + wraps) : lowerExpression n = lowerWithin rest m := by
  rw [lowerExpression, lowerAt, levels, lowerWithin_unwraps unwraps]

theorem lowerWithin_object {object : Node} (literal : object.kind = "object")
    (present : object.missing = false) (budget : Nat) :
    lowerWithin (budget + 1) object =
      .object (object.namedChildren.filterMap (lowerItem? (lowerWithin budget))) object.location := by
  have form : Form.ofKind object.kind = .object := by rw [literal]; rfl
  rw [lowerWithin_of_present present, lowerNode, form]

theorem lowerArguments_of_head {call arguments first : Node}
    (listed : call.child? "arguments" = some arguments) (list : arguments.kind = "arguments")
    (leading : arguments.parts.head? = some first) (lower : Node → Term) :
    ∃ rest, lowerArguments lower call = lower first :: rest := by
  obtain ⟨more, parts⟩ := List.head?_eq_some_iff.1 leading
  exact ⟨more.map lower, by simp [lowerArguments, listed, list, parts]⟩

theorem lowerSite?_eq_binding {d : Node} {target init : Term} {loc : Location}
    (lowered : lowerSite? d = some (.binding target init loc)) :
    d.kind = "variable_declarator" ∧ lowerPattern (d.child? "name") = target ∧
      lowerChild lowerExpression (d.child? "value") = init := by
  unfold lowerSite? at lowered
  cases shape : Shape.ofKind? d.kind with
  | none => simp [shape] at lowered
  | some known =>
      cases known with
      | binding =>
          simp only [shape, Option.some.injEq, Site.binding.injEq] at lowered
          exact ⟨kind_of_shape_binding shape, lowered.1, lowered.2.1⟩
      | _ => simp [shape] at lowered

theorem lowerChild_eq_call {lower : Node → Term} {n : Option Node} {callee : Term}
    {arguments : List Term} {loc : Location} (lowered : lowerChild lower n = .call callee arguments loc) :
    ∃ m, n = some m ∧ lower m = .call callee arguments loc := by
  cases n with
  | none => cases lowered
  | some m => exact ⟨m, rfl, lowered⟩

theorem declaration?_of_bindsObject {d object : Node} {container : String} {levels : Nat}
    (binds : d.BindsObject container levels object) :
    ∃ s declaration, lowerSite? d = some s ∧ s.declaration? = some declaration ∧
      declaration.container = container ∧ (Examined levels → ∃ budget,
        declaration.members = object.namedChildren.filterMap (styleMember? (lowerWithin budget))) := by
  cases binds with
  | @intro name value call arguments first _ outer inner s kind target identifier init wrapped called
      listed list leading covered literal present lowered definition =>
      obtain ⟨v, visit⟩ := Option.isSome_iff_exists.1 definition
      obtain ⟨bound, _, place, access, terms, loc, _, shape, -⟩ := definition?_inversion visit
      obtain ⟨-, pattern, factory⟩ := lowerSite?_eq_binding (lowered.trans (congrArg _ shape))
      rw [target, lowerPattern_identifier identifier] at pattern
      rw [init, lowerChild] at factory
      -- Lowering met a call inside the wrappers of the value, and there is only one node inside them.
      obtain ⟨wraps, m, rest, unwraps, budget, calls, rfl⟩ := lowerWithin_eq_call factory
      obtain ⟨rfl, rfl⟩ := unwraps.unique wrapped (by rw [calls]; decide) (by rw [called]; decide)
      obtain ⟨more, passed⟩ := lowerArguments_of_head listed list leading (lowerWithin rest)
      rw [passed] at shape
      refine ⟨s, _, lowered, by rw [shape]; rfl, (Term.identifier.inj pattern).1.symm, fun examined => ?_⟩
      obtain ⟨spare, reaches⟩ := (examined_iff _).1 examined
      have remaining : rest = spare + 1 + inner := by omega
      refine ⟨spare, ?_⟩
      rw [remaining, lowerWithin_unwraps covered, lowerWithin_object literal present]
      exact staticMembers_object spare object object.location

theorem member_of_bindsObject {d object e : Node} {container key : String} {levels : Nat}
    (binds : d.BindsObject container levels object) (examined : Examined levels)
    (entry : e ∈ object.namedChildren) (keyed : e.styleKey? = some key) :
    ∃ s, lowerSite? d = some s ∧ ∃ style ∈ s.members, style.1 = key ∧ style.2.loc = e.location := by
  obtain ⟨s, declaration, lowered, declared, -, filled⟩ := declaration?_of_bindsObject binds
  obtain ⟨budget, members⟩ := filled examined
  obtain ⟨value, known⟩ := styleMember?_of_styleKey? keyed budget
  refine ⟨s, lowered, (key, value), ?_, rfl, (styleMember?_eq_some known).2⟩
  simp only [Site.members, declared, members]
  exact List.mem_filterMap.2 ⟨e, entry, known⟩

theorem eq_object_of_staticMembers {t : Term} (some : t.staticMembers ≠ []) :
    ∃ entries loc, t = .object entries loc := by
  cases t with
  | object entries loc => exact ⟨entries, loc, rfl⟩
  | _ => exact absurd rfl some

theorem bindsObject_of_members {d : Node} {s : Site} (lowered : lowerSite? d = some s)
    (filled : s.members ≠ []) :
    ∃ container levels object budget, d.BindsObject container levels object ∧ Examined levels ∧
      s.members = object.namedChildren.filterMap (styleMember? (lowerWithin budget)) := by
  cases declared : s.declaration? with
  | none => simp [Site.members, declared] at filled
  | some declaration =>
      obtain ⟨target, place, access, first, rest, loc, outer, shape, static⟩ :=
        declaration?_inversion declared
      have members : s.members = first.staticMembers := by simp [Site.members, declared, static]
      rw [members] at filled
      obtain ⟨entries, start, rfl⟩ := eq_object_of_staticMembers filled
      have definition : s.isContainerDefinition = true := by rw [shape]; rfl
      obtain ⟨kind, pattern, bound⟩ := lowerSite?_eq_binding (lowered.trans (congrArg _ shape))
      obtain ⟨name, target, identifier, -⟩ := lowerPattern_eq_identifier pattern
      obtain ⟨value, init, lowered_call⟩ := lowerChild_eq_call bound
      obtain ⟨wraps, call, left, wrapped, levels, called, passed⟩ := lowerWithin_eq_call lowered_call
      obtain ⟨arguments, head, listed, list, leading, sheet⟩ := head_of_lowerArguments passed
      obtain ⟨covers, object, spare, covered, remaining, literal, present, rfl⟩ :=
        lowerWithin_eq_object sheet.symm
      have examined : Examined (wraps + 1 + covers) := (examined_iff _).2 ⟨spare, by omega⟩
      refine ⟨name.spelling, _, object, spare, ?_, examined,
        members.trans (staticMembers_object spare object start)⟩
      exact .intro kind target identifier init wrapped called listed list leading covered literal present
        lowered definition

end StyleAudit
