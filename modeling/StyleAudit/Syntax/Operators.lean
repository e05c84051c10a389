import StyleAudit.Syntax.Grammar

/-!
Operators between operands. A run of operands and operators is read from left to right and then put
together by how tightly the operators bind: the higher level first, equal levels from the left, except
for powers, which group from the right.
-/

namespace StyleAudit.Syntax

def bindingLevel? (operator : String) : Option Nat :=
  match operator with
  | "??" => some 1
  | "||" => some 2
  | "&&" => some 3
  | "|" => some 4
  | "^" => some 5
  | "&" => some 6
  | "==" | "!=" | "===" | "!==" => some 7
  | "<" | ">" | "<=" | ">=" | "in" | "instanceof" => some 8
  | "<<" | ">>" | ">>>" => some 9
  | "+" | "-" => some 10
  | "*" | "/" | "%" => some 11
  | "**" => some 12
  | _ => none

def comparisonLevel : Nat := 8

/-- The level of powers, the one that groups from the right. -/
def powerLevel : Nat := 12

inductive OperandTail where
  | operator (token : Node) (level : Nat) (right : Node)
  | typed (kind : String)

/-- An operator whose right operand is not complete yet. -/
structure OpenOperation where
  left : Node
  token : Node
  level : Nat

namespace OpenOperation

def close (o : OpenOperation) (right : Node) : Node :=
  .branch "binary_expression" o.left.start
    [o.left.filling "left", o.token.filling "operator", right.filling "right"]

/-- Closes the innermost operations that bind at least as tightly as `level`. -/
def closeDownTo (level : Nat) : List OpenOperation → Node → List OpenOperation × Node
  | [], operand => ([], operand)
  | o :: outer, operand =>
    if level < o.level || (level == o.level && level != powerLevel) then
      closeDownTo level outer (o.close operand)
    else (o :: outer, operand)

def assemble : List OpenOperation → Node → List OperandTail → Node
  | pending, operand, [] => pending.foldl (fun right o => o.close right) operand
  | pending, operand, .operator token level right :: rest =>
    let (outer, left) := closeDownTo level pending operand
    assemble (⟨left, token, level⟩ :: outer) right rest
  | pending, operand, .typed kind :: rest =>
    let (outer, value) := closeDownTo comparisonLevel pending operand
    assemble outer (.branch kind value.start [value]) rest

end OpenOperation

namespace Reader

/-- An arrow function ends an expression: nothing can be applied to it without parentheses. -/
def isArrow (n : Node) : Bool := n.kind == "arrow_function"

def operandTail? (g : Grammar) (context : Context) : Reader (Option OperandTail) := do
  let w ← word
  if !w.isEmpty then
    if (w == "as" || w == "satisfies") && (← source).typed && !(← onNewLine) then
      expectWord w
      g.type
      return some (.typed (w ++ "_expression"))
    if w == "instanceof" || (w == "in" && context.allowsIn) then
      let token ← tokenNode (expectWord w)
      return some (.operator token comparisonLevel (← g.unary context))
    return none
  let m ← mark
  match bindingLevel? m with
  | some level =>
    let token ← tokenNode (expect m)
    return some (.operator token level (← g.unary context))
  | none => return none

def binaryRule (g : Grammar) (context : Context) : Reader Node := do
  let first ← g.unary context
  if isArrow first then return first
  let tails ← collect (operandTail? g context)
  return OpenOperation.assemble [] first tails

end Reader

end StyleAudit.Syntax
