import StyleAudit.Term

/-!
From concrete syntax to terms and sites.

Lowering an expression goes down the tree with a budget of levels. One level is described by
`lowerNode`, which is given the lowering of the level below; a node that is met with nothing left, or
that error recovery supplied, becomes `Term.other`. So lowering is total on every tree, and how deep
the result can be is known from the budget alone.
-/

namespace StyleAudit

open Syntax

inductive Form where
  /-- Wraps a value without changing it: parentheses and type assertions written after the value. -/
  | wrapper
  | name
  | member
  | subscript
  | array
  | spread
  | object
  | conditional
  | binary
  | unary
  | update
  | call
  | other
  deriving Repr, DecidableEq, Inhabited

def Form.ofKind (kind : String) : Form :=
  match kind with
  | "parenthesized_expression" | "as_expression" | "satisfies_expression"
  | "non_null_expression" => .wrapper
  | "identifier" | "shorthand_property_identifier" => .name
  | "member_expression" => .member
  | "subscript_expression" => .subscript
  | "array" => .array
  | "spread_element" => .spread
  | "object" => .object
  | "ternary_expression" => .conditional
  | "binary_expression" => .binary
  | "unary_expression" => .unary
  | "update_expression" => .update
  | "call_expression" => .call
  | _ => .other

def isLogicalOperator (operator : String) : Bool :=
  operator == "&&" || operator == "||" || operator == "??"

def nonEmpty? (text : String) : Option String :=
  if text.isEmpty then none else some text

def unquoted? (text : String) : Option String :=
  match text.toList with
  | first :: rest =>
    if (first == '"' || first == '\'') && rest.getLast? == some first then
      some (String.ofList rest.dropLast)
    else none
  | [] => none

/-- The name a key node spells. Identifiers and string literals that are not empty spell one; computed
keys and numbers do not. -/
def staticKey (n : Node) : Option String :=
  match n.kind with
  | "property_identifier" | "identifier" | "shorthand_property_identifier"
  | "shorthand_property_identifier_pattern" => nonEmpty? n.spelling
  | "string" => (unquoted? n.spelling).bind nonEmpty?
  | _ => none

/-! ## Expressions -/

def unexamined (n : Node) : Term := .other n.kind n.location

def lowerChild (lower : Node → Term) : Option Node → Term
  | some child => lower child
  | none => .absent

/-- The entry that a child of an object node stands for. Children that are no entries give nothing. -/
def lowerItem? (lower : Node → Term) (child : Node) : Option Term :=
  match child.kind with
  | "pair" =>
    some (.property ((child.child? "key").bind staticKey) (lowerChild lower (child.child? "value"))
      child.location)
  | "shorthand_property_identifier" =>
    some (.property (staticKey child) (lower child) child.location)
  | "method_definition" =>
    some (.property ((child.child? "name").bind staticKey) (unexamined child) child.location)
  | "spread_element" => some (lower child)
  | _ => none

/-- The arguments of a call. A template in the place of an argument list passes none. -/
def lowerArguments (lower : Node → Term) (call : Node) : List Term :=
  match call.child? "arguments" with
  | some arguments => if arguments.kind == "arguments" then arguments.parts.map lower else []
  | none => []

def operatorOf (n : Node) : String :=
  match n.child? "operator" with
  | some operator => operator.spelling
  | none => ""

def lowerNode (lower : Node → Term) (n : Node) : Term :=
  let loc := n.location
  let field name := lowerChild lower (n.child? name)
  match Form.ofKind n.kind with
  | .wrapper =>
    match n.parts.head? with
    | some inner => lower inner
    | none => unexamined n
  | .name => .identifier n.spelling loc
  | .member =>
    match n.child? "object" with
    | some object =>
      let member := (n.child? "property").bind fun property =>
        if property.kind == "property_identifier" then nonEmpty? property.spelling else none
      .member (lower object) member loc
    | none => unexamined n
  | .subscript =>
    match n.child? "object" with
    | some object =>
      let member := (n.child? "index").bind fun index =>
        if index.kind == "string" then staticKey index else none
      .member (lower object) member loc
    | none => unexamined n
  | .array => .array (n.parts.map lower) loc
  | .spread => .spread (lowerChild lower n.parts.head?) loc
  | .object => .object (n.namedChildren.filterMap (lowerItem? lower)) loc
  | .conditional =>
    .conditional (field "condition") (field "consequence") (field "alternative") loc
  | .binary =>
    let operator := operatorOf n
    if isLogicalOperator operator then .logical operator (field "left") (field "right") loc
    else .binary operator (field "left") (field "right") loc
  | .unary => .unary (operatorOf n) (field "argument") loc
  | .update => .update (operatorOf n) (field "argument") loc
  | .call => .call (field "function") (lowerArguments lower n) loc
  | .other => unexamined n

/-- Lowers an expression, looking at most `budget` levels deep. -/
def lowerWithin : Nat → Node → Term
  | 0, n => unexamined n
  | budget + 1, n => if n.missing then unexamined n else lowerNode (lowerWithin budget) n

/-- An expression deeper than this many levels below its site is not looked into. -/
def deepestLevel : Int := 100

def budgetAt (depth : Int) : Nat := (deepestLevel + 1 - depth).toNat

def lowerAt (depth : Int) (n : Node) : Term := lowerWithin (budgetAt depth) n

def lowerExpression (n : Node) : Term := lowerAt 0 n

/-! ## Binding targets -/

/-- The key that an entry of an object pattern takes out of the object. -/
def patternKey? (entry : Node) : Option String :=
  match entry.kind with
  | "shorthand_property_identifier_pattern" => staticKey entry
  | "pair_pattern" => (entry.child? "key").bind staticKey
  | "object_assignment_pattern" => (entry.child? "left").bind staticKey
  | _ => none

def lowerPattern : Option Node → Term
  | none => .other "missing" ⟨0, 0⟩
  | some n =>
    match n.kind with
    | "identifier" => .identifier n.spelling n.location
    | "object_pattern" => .objectPattern (n.namedChildren.filterMap patternKey?) n.location
    | _ => unexamined n

/-! ## Sites -/

def Shape.ofKind? (kind : String) : Option Shape :=
  match kind with
  | "variable_declarator" => some .binding
  | "jsx_attribute" => some .attr
  | "return_statement" => some .returned
  | "assignment_expression" | "augmented_assignment_expression" => some .assignment
  | _ => none

def attributeName? (n : Node) : Option String :=
  n.parts.head?.bind fun name => if name.kind == "property_identifier" then some name.spelling else none

/-- The expression in braces that an attribute carries. -/
def attributeValue? (n : Node) : Option Node :=
  match n.parts with
  | _ :: rest =>
    rest.getLast?.bind fun value => if value.kind == "jsx_expression" then value.parts.head? else none
  | [] => none

def lowerSite? (n : Node) : Option Site :=
  let field name := lowerChild lowerExpression (n.child? name)
  match Shape.ofKind? n.kind with
  | some .binding => some (.binding (lowerPattern (n.child? "name")) (field "value") n.location)
  | some .attr =>
    some (.attr (attributeName? n) (lowerChild lowerExpression (attributeValue? n)) n.location)
  | some .returned => some (.returned (lowerChild lowerExpression n.parts.head?) n.location)
  | some .assignment =>
    let operator := match n.child? "operator" with
      | some operator => operator.spelling
      | none => "="
    some (.assignment operator (field "left") (field "right") n.location)
  | none => none

end StyleAudit
