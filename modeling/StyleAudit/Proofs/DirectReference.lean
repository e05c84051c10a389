import StyleAudit.Proofs.Reading

/-!
# A style that is referred to directly is not reported

The statement is about the concrete tree. A site is reached from the root, the value of its expression
is followed through nodes that hand it on (`Node.FlowStep`), and the way ends at an access
`name.style` or `name['style']`. Lowering goes one level down for each step, two for a spread in an
object, and the access is seen as long as the name in it stands within the deepest level.
-/

namespace StyleAudit.Syntax.Node

/-! ## Ways through the tree -/

/-- The nodes that stand for the value inside them. -/
def wrapperKinds : List String :=
  ["parenthesized_expression", "as_expression", "satisfies_expression", "non_null_expression"]

/-- The value of the first node may be that of the second, which lies so many levels below. -/
inductive FlowStep : Nat → Node → Node → Prop
  | wrapped {n m : Node} (kind : n.kind ∈ wrapperKinds) (inner : n.parts.head? = some m) :
      FlowStep 1 n m
  | element {n m : Node} (kind : n.kind = "array") (member : m ∈ n.parts) : FlowStep 1 n m
  | spread {n m : Node} (kind : n.kind = "spread_element") (argument : n.parts.head? = some m) :
      FlowStep 1 n m
  | branch {n m : Node} {field : String} (kind : n.kind = "ternary_expression")
      (part : field ∈ ["condition", "consequence", "alternative"]) (child : n.child? field = some m) :
      FlowStep 1 n m
  | operand {n m : Node} {field : String} (kind : n.kind = "binary_expression")
      (part : field ∈ ["left", "right"]) (child : n.child? field = some m) : FlowStep 1 n m
  | argument {n m : Node} (kind : n.kind ∈ ["unary_expression", "update_expression"])
      (child : n.child? "argument" = some m) : FlowStep 1 n m
  | pairValue {n pair m : Node} (kind : n.kind = "object") (member : pair ∈ n.namedChildren)
      (entry : pair.kind = "pair") (value : pair.child? "value" = some m) : FlowStep 1 n m
  | spreadEntry {n spread m : Node} (kind : n.kind = "object") (member : spread ∈ n.namedChildren)
      (entry : spread.kind = "spread_element") (present : spread.missing = false)
      (argument : spread.parts.head? = some m) : FlowStep 2 n m

/-- A way along steps that start at nodes of the source, with the levels it goes down. -/
inductive Leads : Nat → Node → Node → Prop
  | here (n : Node) : Leads 0 n n
  | step {i j : Nat} {n m last : Node} (present : n.missing = false) (first : FlowStep i n m)
      (rest : Leads j m last) : Leads (j + i) n last

inductive Unwraps : Nat → Node → Node → Prop
  | here (n : Node) : Unwraps 0 n n
  | step {i : Nat} {n m last : Node} (present : n.missing = false) (kind : n.kind ∈ wrapperKinds)
      (inner : n.parts.head? = some m) (rest : Unwraps i m last) : Unwraps (i + 1) n last

/-- The node is an access to the member `name` of `object`. -/
inductive Accesses : Node → Node → String → Prop
  | property {n object property : Node} (kind : n.kind = "member_expression")
      (child : n.child? "object" = some object) (named : n.child? "property" = some property)
      (identifier : property.kind = "property_identifier") : Accesses n object property.spelling
  | index {n object index : Node} {name : String} (kind : n.kind = "subscript_expression")
      (child : n.child? "object" = some object) (named : n.child? "index" = some index)
      (literal : index.kind = "string")
      (quoted : index.spelling = "'" ++ name ++ "'" ∨ index.spelling = "\"" ++ name ++ "\"") :
      Accesses n object name

/-- The expression that a node uses as a style. -/
inductive StyleValue : Node → Node → Prop
  | returned {u e : Node} (kind : u.kind = "return_statement") (value : u.parts.head? = some e) :
      StyleValue u e
  | assigned {u e : Node}
      (kind : u.kind ∈ ["assignment_expression", "augmented_assignment_expression"])
      (value : u.child? "right" = some e) : StyleValue u e
  | attr {u name braces e : Node} (kind : u.kind = "jsx_attribute")
      (first : u.parts.head? = some name) (identifier : name.kind = "property_identifier")
      (style : isStyleAttributeName name.spelling = true) (several : 2 ≤ u.parts.length)
      (last : u.parts.getLast? = some braces) (expression : braces.kind = "jsx_expression")
      (value : braces.parts.head? = some e) : StyleValue u e

end StyleAudit.Syntax.Node

namespace StyleAudit

open Syntax

/-! ## Lowering follows the way -/

theorem lowerWithin_of_present {n : Node} (present : n.missing = false) (budget : Nat) :
    lowerWithin (budget + 1) n = lowerNode (lowerWithin budget) n := by
  simp [lowerWithin, present]

theorem lowerWithin_wrapper {n m : Node} (present : n.missing = false)
    (kind : n.kind ∈ Node.wrapperKinds) (inner : n.parts.head? = some m) (budget : Nat) :
    lowerWithin (budget + 1) n = lowerWithin budget m := by
  have form : Form.ofKind n.kind = .wrapper := by
    simp only [Node.wrapperKinds, List.mem_cons, List.not_mem_nil, or_false] at kind
    rcases kind with kind | kind | kind | kind <;> rw [kind] <;> rfl
  rw [lowerWithin_of_present present, lowerNode]
  simp [form, inner]

theorem lowerWithin_spread {n m : Node} (present : n.missing = false)
    (kind : n.kind = "spread_element") (argument : n.parts.head? = some m) (budget : Nat) :
    lowerWithin (budget + 1) n = .spread (lowerWithin budget m) n.location := by
  have form : Form.ofKind n.kind = .spread := by rw [kind]; rfl
  rw [lowerWithin_of_present present, lowerNode]
  simp [form, argument, lowerChild]

theorem flows_of_flowStep {levels : Nat} {n m : Node} (step : Node.FlowStep levels n m)
    (present : n.missing = false) (budget : Nat) :
    (lowerWithin (budget + levels) n).Flows (lowerWithin budget m) := by
  cases step with
  | wrapped kind inner =>
      rw [lowerWithin_wrapper present kind inner]
      exact .refl
  | element kind member =>
      rw [lowerWithin_of_present present, lowerNode, kind]
      exact .single (.element (List.mem_map_of_mem member))
  | spread kind argument =>
      rw [lowerWithin_spread present kind argument]
      exact .single .spread
  | branch kind part child =>
      have form : Form.ofKind n.kind = .conditional := by rw [kind]; rfl
      rw [lowerWithin_of_present present, lowerNode]
      simp only [List.mem_cons, List.not_mem_nil, or_false] at part
      rcases part with rfl | rfl | rfl <;> simp only [form, child, lowerChild]
      · exact .single .test
      · exact .single .consequent
      · exact .single .alternate
  | operand kind part child =>
      have form : Form.ofKind n.kind = .binary := by rw [kind]; rfl
      rw [lowerWithin_of_present present, lowerNode]
      simp only [List.mem_cons, List.not_mem_nil, or_false] at part
      rcases part with rfl | rfl <;> simp only [form, child, lowerChild] <;> split
      · exact .single .logicalLeft
      · exact .single .binaryLeft
      · exact .single .logicalRight
      · exact .single .binaryRight
  | argument kind child =>
      rw [lowerWithin_of_present present, lowerNode]
      simp only [List.mem_cons, List.not_mem_nil, or_false] at kind
      rcases kind with kind | kind
      · have form : Form.ofKind n.kind = .unary := by rw [kind]; rfl
        simp only [form, child, lowerChild]
        exact .single .unary
      · have form : Form.ofKind n.kind = .update := by rw [kind]; rfl
        simp only [form, child, lowerChild]
        exact .single .update
  | @pairValue _ pair _ kind member entry value =>
      rw [lowerWithin_of_present present, lowerNode, kind]
      have item : lowerItem? (lowerWithin budget) pair = some (.property
          ((pair.child? "key").bind staticKey) (lowerWithin budget m) pair.location) := by
        simp [lowerItem?, entry, value, lowerChild]
      exact .single (.entry (List.mem_filterMap.2 ⟨pair, member, item⟩) rfl)
  | @spreadEntry _ spread _ kind member entry there argument =>
      -- The spread is lowered one level below the object, its argument one level further down.
      rw [lowerWithin_of_present present, lowerNode, kind]
      have item : lowerItem? (lowerWithin (budget + 1)) spread =
          some (.spread (lowerWithin budget m) spread.location) := by
        simp [lowerItem?, entry, lowerWithin_spread there entry argument]
      exact .single (.entry (List.mem_filterMap.2 ⟨spread, member, item⟩) rfl)

theorem flows_of_leads {levels : Nat} {n last : Node} (way : Node.Leads levels n last)
    (budget : Nat) : (lowerWithin (budget + levels) n).Flows (lowerWithin budget last) := by
  induction way with
  | here n => exact .refl
  | step present first rest ih =>
      rw [← Nat.add_assoc]
      exact (flows_of_flowStep first present _).trans ih

theorem lowerWithin_unwraps {levels : Nat} {n last : Node} (way : Node.Unwraps levels n last)
    (budget : Nat) : lowerWithin (budget + levels) n = lowerWithin budget last := by
  induction way with
  | here n => rfl
  | step present kind inner rest ih =>
      rw [← Nat.add_assoc, lowerWithin_wrapper present kind inner, ih]

theorem lowerWithin_name {n : Node} (present : n.missing = false)
    (kind : n.kind ∈ ["identifier", "shorthand_property_identifier"]) (budget : Nat) :
    lowerWithin (budget + 1) n = .identifier n.spelling n.location := by
  rw [lowerWithin_of_present present, lowerNode]
  simp only [List.mem_cons, List.not_mem_nil, or_false] at kind
  rcases kind with kind | kind <;> rw [kind] <;> rfl

/-! ## Accesses -/

theorem nonEmpty?_of_ne {text : String} (filled : text ≠ "") : nonEmpty? text = some text := by
  simp [nonEmpty?, filled]

theorem unquoted?_quoted {quote : Char} (known : quote = '"' ∨ quote = '\'') (name : String) :
    unquoted? (String.ofList [quote] ++ name ++ String.ofList [quote]) = some name := by
  have letters : (String.ofList [quote] ++ name ++ String.ofList [quote]).toList =
      quote :: (name.toList ++ [quote]) := by
    simp
  unfold unquoted?
  rw [letters]
  rcases known with rfl | rfl <;> simp

theorem staticKey_quoted {n : Node} {name : String} (literal : n.kind = "string")
    (quoted : n.spelling = "'" ++ name ++ "'" ∨ n.spelling = "\"" ++ name ++ "\"")
    (filled : name ≠ "") : staticKey n = some name := by
  have inside : unquoted? n.spelling = some name := by
    rcases quoted with quoted | quoted <;> rw [quoted]
    · exact unquoted?_quoted (.inr rfl) name
    · exact unquoted?_quoted (.inl rfl) name
  rw [staticKey, literal]
  simp [inside, nonEmpty?_of_ne filled]

theorem lowerWithin_access {n object : Node} {name : String} (present : n.missing = false)
    (access : n.Accesses object name) (filled : name ≠ "") (budget : Nat) :
    lowerWithin (budget + 1) n = .member (lowerWithin budget object) (some name) n.location := by
  rw [lowerWithin_of_present present, lowerNode]
  cases access with
  | property kind child named identifier =>
      have form : Form.ofKind n.kind = .member := by rw [kind]; rfl
      simp [form, child, named, identifier, nonEmpty?_of_ne filled]
  | index kind child named literal quoted =>
      have form : Form.ofKind n.kind = .subscript := by rw [kind]; rfl
      simp [form, child, named, literal, staticKey_quoted literal quoted filled]

/-! ## Sites -/

theorem lowerNode_isAbsent {lower : Node → Term} (solid : ∀ n, (lower n).isAbsent = false)
    (n : Node) : (lowerNode lower n).isAbsent = false := by
  unfold lowerNode
  cases Form.ofKind n.kind with
  | wrapper =>
      cases n.parts.head? with
      | some inner => exact solid inner
      | none => rfl
  | member => cases n.child? "object" <;> simp [unexamined, Term.isAbsent]
  | subscript => cases n.child? "object" <;> simp [unexamined, Term.isAbsent]
  | binary =>
      dsimp only
      split <;> rfl
  | _ => rfl

theorem lowerWithin_isAbsent (budget : Nat) (n : Node) :
    (lowerWithin budget n).isAbsent = false := by
  induction budget generalizing n with
  | zero => rfl
  | succ budget ih =>
      by_cases missing : n.missing = true
      · simp [lowerWithin, missing, unexamined, Term.isAbsent]
      · rw [lowerWithin_of_present (by simpa using missing)]
        exact lowerNode_isAbsent ih n

theorem attributeName?_of_head {n name : Node} (first : n.parts.head? = some name)
    (identifier : name.kind = "property_identifier") : attributeName? n = some name.spelling := by
  simp [attributeName?, first, identifier]

theorem attributeValue?_of_last {n braces e : Node} (several : 2 ≤ n.parts.length)
    (last : n.parts.getLast? = some braces) (expression : braces.kind = "jsx_expression")
    (value : braces.parts.head? = some e) : attributeValue? n = some e := by
  unfold attributeValue?
  match n.parts, several, last with
  | _ :: second :: rest, _, last =>
      rw [List.getLast?_cons_cons] at last
      simp [last, expression, value]

theorem styleValue?_of_styleValue {u e : Node} (used : u.StyleValue e) :
    ∃ s, lowerSite? u = some s ∧ s.styleValue? = some (lowerExpression e) := by
  cases used with
  | returned kind value =>
      have shape : Shape.ofKind? u.kind = some .returned := by rw [kind]; rfl
      refine ⟨_, by rw [lowerSite?, shape], ?_⟩
      simp [Site.styleValue?, value, lowerChild]
  | assigned kind value =>
      have shape : Shape.ofKind? u.kind = some .assignment := by
        simp only [List.mem_cons, List.not_mem_nil, or_false] at kind
        rcases kind with kind | kind <;> rw [kind] <;> rfl
      refine ⟨_, by rw [lowerSite?, shape], ?_⟩
      simp [Site.styleValue?, value, lowerChild]
  | attr kind first identifier style several last expression value =>
      refine ⟨_, by rw [lowerSite?, kind]; rfl, ?_⟩
      rw [attributeName?_of_head first identifier,
        attributeValue?_of_last several last expression value]
      have solid : (lowerExpression e).isAbsent = false := lowerWithin_isAbsent _ e
      simp [Site.styleValue?, Site.isStyleAttribute, Visit.styleAttribute?, lowerChild, style, solid]

/-! ## No false alarm -/

theorem mem_styleNames_of_access {e access object name : Node} {k : String} {deep wraps : Nat}
    (way : e.Leads deep access) (present : access.missing = false)
    (accesses : access.Accesses object k) (filled : k ≠ "")
    (unwraps : object.Unwraps wraps name) (there : name.missing = false)
    (kind : name.kind ∈ ["identifier", "shorthand_property_identifier"])
    (within : (deep + 1 + wraps : Int) ≤ deepestLevel) (scope : Containers) :
    k ∈ styleNames scope (lowerExpression e) := by
  -- The levels left over when the name inside the access is reached.
  obtain ⟨spare, budget⟩ : ∃ spare, budgetAt 0 = spare + 1 + wraps + 1 + deep :=
    ⟨100 - (deep + 1 + wraps), by simp only [budgetAt, deepestLevel] at within ⊢; omega⟩
  have lowered : lowerWithin (spare + 1 + wraps + 1) access =
      .member (.identifier name.spelling name.location) (some k) access.location := by
    rw [lowerWithin_access present accesses filled, lowerWithin_unwraps unwraps,
      lowerWithin_name there kind]
  have flow := flows_of_leads way (spare + 1 + wraps + 1)
  rw [lowered, ← budget] at flow
  exact flow.mem_styleNames (Term.Mentions.access filled).mem_styleNames

theorem mem_usedNames_of_styleValue {root u e : Node} {k : String} (reached : root.Reaches u)
    (used : u.StyleValue e) (named : ∀ scope, k ∈ styleNames scope (lowerExpression e)) :
    k ∈ usedNames root.sites := by
  obtain ⟨s, lowered, value⟩ := styleValue?_of_styleValue used
  have member : s ∈ root.sites :=
    List.mem_filterMap.2 ⟨u, Node.mem_preorder_iff.2 reached, lowered⟩
  obtain ⟨before, after, sites⟩ := List.append_of_mem member
  refine mem_usedNames_iff.2 ⟨before, s, after, sites, ?_⟩
  rw [uses_of_styleValue value]
  exact named _

theorem direct_reference_not_reported {root u e access object name : Node} {k : String}
    {deep wraps : Nat} (reached : root.Reaches u) (used : u.StyleValue e)
    (way : e.Leads deep access) (present : access.missing = false)
    (accesses : access.Accesses object k) (filled : k ≠ "")
    (unwraps : object.Unwraps wraps name) (there : name.missing = false)
    (kind : name.kind ∈ ["identifier", "shorthand_property_identifier"])
    (within : (deep + 1 + wraps : Int) ≤ deepestLevel) :
    ∃ findings, analyzeTree root = .ok findings ∧ ∀ f ∈ findings, f.name ≠ k := by
  obtain ⟨findings, analyzed, reported⟩ := analyzeTree_reports root
  refine ⟨findings, analyzed, fun f member same => ?_⟩
  have unused := ((reported k).1 ⟨f, member, same⟩).2
  exact unused (mem_usedNames_of_styleValue reached used
    (mem_styleNames_of_access way present accesses filled unwraps there kind within))

namespace Sample

/-- The tree of `(s)['box']`. -/
def boxAccess : Node :=
  tree "subscript_expression" [
    (tree "parenthesized_expression" [word "identifier" [0x73]]).filling "object",
    (word "string" [0x27, 0x62, 0x6f, 0x78, 0x27]).filling "index"]

/-- The tree of `[on && { ...(s)['box'] }]`. -/
def boxList : Node :=
  tree "array" [tree "binary_expression" [
    (word "identifier" [0x6f, 0x6e]).filling "left",
    (word "&&" [0x26, 0x26]).filling "operator",
    (tree "object" [tree "spread_element" [boxAccess]]).filling "right"]]

def boxReturned : Node := tree "program" [tree "return_statement" [boxList], sheet]

end Sample

open Sample in
theorem direct_reference_not_reported_sample :
    "box" ∈ (boxReturned.sites.flatMap Site.members).map (·.1) ∧
      ∃ findings, analyzeTree boxReturned = .ok findings ∧ ∀ f ∈ findings, f.name ≠ "box" := by
  have reached : boxReturned.Reaches (tree "return_statement" [boxList]) :=
    .single (List.Mem.head _)
  have way : boxList.Leads 4 boxAccess :=
    .step rfl (.element rfl (List.Mem.head _))
      (.step rfl (.operand rfl (List.Mem.tail _ (List.Mem.head _)) rfl)
        (.step rfl (.spreadEntry rfl (List.Mem.head _) rfl rfl rfl) (.here boxAccess)))
  have unwraps : ((tree "parenthesized_expression" [word "identifier" [0x73]]).filling
      "object").Unwraps 1 (word "identifier" [0x73]) :=
    .step rfl (List.Mem.head _) rfl (.here _)
  exact ⟨by decide, direct_reference_not_reported reached (.returned rfl rfl) way rfl
    (.index rfl rfl rfl rfl (.inl (by decide))) (by decide) unwraps rfl (List.Mem.head _) (by decide)⟩

end StyleAudit
