import StyleAudit.Syntax.Class
import StyleAudit.Syntax.Element
import StyleAudit.Syntax.Operators

/-!
Expressions.

A parenthesis may open a plain expression or the parameters of an arrow function. Its items are read
as expressions in either case and turned into parameters once the arrow is seen, so nothing is read
twice.
-/

namespace StyleAudit.Syntax.Reader

/-! ## Arrow functions -/

def arrowRest (g : Grammar) (context : Context) (start : Point) (params : Node) : Reader Node := do
  require (!(← onNewLine))
  expect "=>"
  let body ← if (← next) == '\x7b' then block g else g.assignment context
  return .branch "arrow_function" start [params.filling "parameters", body.filling "body"]

def genericArrow (g : Grammar) (context : Context) (start : Point) : Reader Node := do
  typeParameters g
  let params ← parameters g
  optionalAnnotation g
  arrowRest g context start params

/-- Whether an angle bracket here can only open type parameters: in a language with markup a comma or a
bound has to follow the first of them. -/
def atTypeParameters : Reader Bool := do
  let s ← source
  if !s.typed || (← next) != '<' then return false
  if !s.markup then return true
  let found ← optionally (ahead do
    expectChar '<'
    if ← word? "const" then require (!(← word).isEmpty)
    let _ ← anyWord
    let c ← next
    let bound ← word
    if bound == "extends" then
      expectWord "extends"
      let c ← next
      return c != '=' && c != '>' && c != '/'
    return c == ',')
  return found == some true

/-- The items between parentheses, and whether only an arrow function can start with them. -/
structure Parenthesized where
  items : List Node
  parametersOnly : Bool

def parameterTail (g : Grammar) (item : Node) : Reader (Node × Bool) := do
  if !(← source).typed then return (item, false)
  let optional ← mark? "?"
  let annotated ← mark? ":"
  if annotated then g.type
  if annotated || optional then
    return (← withDefault g item.toPattern, true)
  return (item, false)

def parenthesized (g : Grammar) : Reader Parenthesized := do
  expect "("
  let found ← repeating (fun (found : Parenthesized) => do
    if ← isMark ")" then return none
    let start ← here
    let spread ← mark? "..."
    let value ← g.assignment .plain
    let item := if spread then Node.branch "spread_element" start [value] else value
    let (item, annotated) ← parameterTail g item
    let more ← mark? ","
    let trailing := more && (← isMark ")")
    return some ⟨found.items ++ [item], found.parametersOnly || spread || annotated || trailing⟩)
    ⟨[], false⟩
  expect ")"
  return ⟨found.items, found.parametersOnly || found.items.isEmpty⟩

/-- Passes a result type if an arrow follows it. A type in parentheses may stand before the arrow even if
it could also be the parameters of a function type. -/
def resultType? (g : Grammar) (context : Context) : Reader Bool := do
  if !(← source).typed || !context.allowsResultType then return false
  let before (type : Reader Unit) : Reader Unit := do
    expect ":"
    type
    require (← isMark "=>")
  let found ← optionally (orElse (before g.type) (before (bracketed '(' ')')))
  return found.isSome

def arrowAfter? (g : Grammar) (context : Context) (start : Point) (items : List Node) :
    Reader (Option Node) := do
  let params := Node.branch "formal_parameters" start (items.map Node.toPattern)
  if (← isMark "=>") && !(← onNewLine) then return some (← arrowRest g context start params)
  if ← resultType? g context then return some (← arrowRest g context start params)
  return none

def sequenceOf : List Node → Reader Node
  | [] => fail
  | [single] => pure single
  | first :: rest => pure (.branch "sequence_expression" first.start (first :: rest))

def parenRule (g : Grammar) (context : Context) : Reader Node := do
  let start ← here
  let found ← parenthesized g
  match ← arrowAfter? g context start found.items with
  | some arrow => return arrow
  | none =>
    require (!found.parametersOnly)
    return .branch "parenthesized_expression" start [← sequenceOf found.items]

/-! ## Arrays and objects -/

def spreadElement (g : Grammar) : Reader Node := do
  let start ← here
  expect "..."
  return .branch "spread_element" start [← g.assignment .plain]

def listItem (g : Grammar) : Reader Node := do
  if ← isMark "..." then spreadElement g else g.assignment .plain

def arrayRule (g : Grammar) : Reader Node := do
  let start ← here
  expect "["
  return .branch "array" start (← commaList "]" (listItem g))

def objectEntry (g : Grammar) : Reader Node := do
  if ← isMark "..." then return ← spreadElement g
  let start ← here
  methodModifiers ["async", "get", "set"]
  let generator ← mark? "*"
  let key ← propertyName g
  let c ← next
  if c == '(' || (c == '<' && (← source).typed) then
    return .branch "method_definition" start (key.filling "name" :: (← functionRest g))
  require (!generator)
  if ← mark? ":" then
    let value ← g.assignment .plain
    return .branch "pair" key.start [key.filling "key", value.filling "value"]
  require (key.kind == "property_identifier")
  if ← mark? "=" then
    let value ← g.assignment .plain
    let name := { key with kind := "shorthand_property_identifier_pattern" }
    return .branch "object_assignment_pattern" key.start [name.filling "left", value.filling "right"]
  return { key with kind := "shorthand_property_identifier" }

def objectRule (g : Grammar) : Reader Node := do
  let start ← here
  expect "\x7b"
  return .branch "object" start (← commaList "\x7d" (objectEntry g))

/-! ## Calls and accesses -/

def argumentList (g : Grammar) : Reader Node := do
  let start ← here
  expect "("
  return .branch "arguments" start (← commaList ")" (listItem g))

def callOf (callee arguments : Node) : Node :=
  .branch "call_expression" callee.start [callee.filling "function", arguments.filling "arguments"]

def memberOf (object : Node) : Reader Node := do
  let property ← if (← next) == '#' then privateName else wordNode "property_identifier"
  return .branch "member_expression" object.start
    [object.filling "object", property.filling "property"]

def subscriptOf (g : Grammar) (object : Node) : Reader Node := do
  expect "["
  let index ← g.expression .plain
  expect "]"
  return .branch "subscript_expression" object.start [object.filling "object", index.filling "index"]

/-- Whether what comes next may follow type arguments that no call follows. -/
def mayFollowTypeArguments : Reader Bool := do
  if ← onNewLine then return true
  if ← atEnd then return true
  let c ← next
  if c == '<' || c == '>' || c == '+' || c == '-' then return false
  let w ← word
  if !w.isEmpty then return w == "in" || w == "instanceof" || w == "as" || w == "satisfies" || w == "of"
  if ← atNumber then return false
  return !(isQuote c || c == '(' || c == '[' || c == '\x7b' || c == '!' || c == '~' || c == '/' ||
    c == '@' || c == '#')

def typeArgumentsTail? (g : Grammar) (callee : Node) : Reader (Option Node) := do
  if !(← source).typed then return none
  optionally do
    typeArguments g
    let c ← next
    if c == '(' then return callOf callee (← argumentList g)
    if c == '\x60' then return callOf callee (← template g)
    require (← mayFollowTypeArguments)
    return .branch "instantiation_expression" callee.start [callee]

def presence? (object : Node) : Reader (Option Node) := do
  if (← source).typed && !(← onNewLine) then
    expect "!"
    return some (.branch "non_null_expression" object.start [object])
  return none

def application? (g : Grammar) (object : Node) : Reader (Option Node) := do
  if isArrow object then return none
  match ← mark with
  | "." =>
    expect "."
    return some (← memberOf object)
  | "?." =>
    expect "?."
    let c ← next
    if c == '(' then return some (callOf object (← argumentList g))
    if c == '[' then return some (← subscriptOf g object)
    if c == '<' then
      typeArguments g
      return some (callOf object (← argumentList g))
    if c == '\x60' then return some (callOf object (← template g))
    return some (← memberOf object)
  | "[" => return some (← subscriptOf g object)
  | "(" => return some (callOf object (← argumentList g))
  | "\x60" => return some (callOf object (← template g))
  | "!" => presence? object
  | "<" => typeArgumentsTail? g object
  | "<<" => typeArgumentsTail? g object
  | _ => return none

/-! ## Operands -/

def functionExpression (g : Grammar) (start : Point) : Reader Node := do
  expectWord "function"
  let generator ← mark? "*"
  let w ← word
  let name ← if w.isEmpty then pure [] else do pure [(← wordNode "identifier").filling "name"]
  let kind := if generator then "generator_function" else "function_expression"
  return .branch kind start (name ++ (← functionRest g))

def asyncRule (g : Grammar) (context : Context) : Reader Node := do
  let start ← here
  let name ← wordNode "identifier"
  if ← onNewLine then return name
  let w ← word
  if w == "function" then return ← functionExpression g start
  if !w.isEmpty then
    let arrow ← optionally do
      let param ← wordNode "identifier"
      arrowRest g context start param
    return arrow.getD name
  if (← next) == '(' then
    let open_ ← here
    let found ← parenthesized g
    match ← arrowAfter? g context start found.items with
    | some arrow => return arrow
    | none => return callOf name (.branch "arguments" open_ found.items)
  if (← next) == '<' && (← source).typed then
    let arrow ← optionally (genericArrow g context start)
    return arrow.getD name
  return name

/-- What `new` is applied to: accesses and templates, but no calls with parentheses. -/
def constructorTail? (g : Grammar) (object : Node) : Reader (Option Node) := do
  match ← mark with
  | "." =>
    expect "."
    return some (← memberOf object)
  | "[" => return some (← subscriptOf g object)
  | "\x60" => return some (callOf object (← template g))
  | "!" => presence? object
  | _ => return none

def constantWord (w : String) : Bool :=
  w == "this" || w == "super" || w == "null" || w == "true" || w == "false" || w == "undefined" ||
    w == "import"

def primaryRule (g : Grammar) (context : Context) : Reader Node := do
  let start ← here
  let c ← next
  if c == '(' then return ← parenRule g context
  if c == '[' then return ← arrayRule g
  if c == '\x7b' then return ← objectRule g
  if c == '\x60' then return ← template g
  if isQuote c then return ← stringLiteral
  if c == '/' then return ← patternLiteral
  if c == '#' then return ← privateName
  if c == '@' then
    let decoration ← decorators g
    return ← classRule g "class" start decoration
  if c == '<' && (← source).markup then return ← g.element
  if ← atNumber then return ← numberLiteral
  let w ← word
  if w == "function" then return ← functionExpression g start
  if w == "class" then return ← classRule g "class" start []
  if w == "async" then return ← asyncRule g context
  if constantWord w then
    let constant ← wordNode w
    if w == "import" && (← isMark ".") then
      expect "."
      let _ ← anyWord
      return .branch "meta_property" start []
    return constant
  let name ← wordNode "identifier"
  if (← isMark "=>") && !(← onNewLine) then return ← arrowRest g context start name
  return name

def newRule (g : Grammar) (context : Context) : Reader Node := do
  let start ← here
  expectWord "new"
  if ← mark? "." then
    let _ ← anyWord
    return .branch "meta_property" start []
  let first ← if (← word) == "new" then g.unary context else primaryRule g context
  let target ← repeating (constructorTail? g) first
  if (← source).typed then
    let _ ← optionally (typeArguments g)
  let parts := [target.filling "constructor"]
  if (← next) == '(' then
    return .branch "new_expression" start (parts ++ [(← argumentList g).filling "arguments"])
  return .branch "new_expression" start parts

def operandRule (g : Grammar) (context : Context) : Reader Node := do
  let first ← if (← word) == "new" then newRule g context else primaryRule g context
  repeating (application? g) first

/-! ## Operators in front -/

def unaryOf (kind : String) (token argument : Node) : Node :=
  .branch kind token.start [token.filling "operator", argument.filling "argument"]

def unaryRule (g : Grammar) (context : Context) : Reader Node := do
  let start ← here
  let w ← word
  if w == "typeof" || w == "void" || w == "delete" then
    let token ← tokenNode (expectWord w)
    return unaryOf "unary_expression" token (← g.unary context)
  if w == "await" then
    expectWord "await"
    return .branch "await_expression" start [← g.unary context]
  let m ← mark
  if m == "!" || m == "~" || m == "+" || m == "-" then
    let token ← tokenNode (expect m)
    return unaryOf "unary_expression" token (← g.unary context)
  if m == "++" || m == "--" then
    let token ← tokenNode (expect m)
    return unaryOf "update_expression" token (← g.unary context)
  if m == "<" && (← source).typed && !(← source).markup then
    expect "<"
    g.type
    expectChar '>'
    return .branch "type_assertion" start [← g.unary context]
  let operand ← operandRule g context
  let m ← mark
  if (m == "++" || m == "--") && !(← onNewLine) && !isArrow operand then
    let token ← tokenNode (expect m)
    return .branch "update_expression" operand.start
      [operand.filling "argument", token.filling "operator"]
  return operand

/-! ## Conditions, assignments, sequences -/

def atOptionalMark : Reader Bool := do
  if !(← source).typed then return false
  ahead do
    expect "?"
    let c ← next
    return c == ':' || c == ',' || c == ')'

/-- The two branches of a condition. A result type in the first branch is given up if then no second
branch follows. -/
def branches (g : Grammar) (context : Context) : Reader (Node × Node) := do
  expect "?"
  let firstBranch (allowsResultType : Bool) : Reader Node := do
    let value ← g.assignment { context with allowsIn := true, allowsResultType }
    expect ":"
    return value
  let consequent ← if (← source).typed then orElse (firstBranch true) (firstBranch false)
    else firstBranch true
  return (consequent, ← g.assignment context)

def conditionalRule (g : Grammar) (context : Context) : Reader Node := do
  let test ← binaryRule g context
  if isArrow test || !(← isMark "?") then return test
  if ← atOptionalMark then return test
  let (consequent, alternate) ← branches g context
  return .branch "ternary_expression" test.start
    [test.filling "condition", consequent.filling "consequence", alternate.filling "alternative"]

def isCompoundAssignment (m : String) : Bool :=
  ["+=", "-=", "*=", "/=", "%=", "**=", "<<=", ">>=", ">>>=", "&=", "|=", "^=", "&&=", "||=",
    "??="].contains m

def yieldRule (g : Grammar) (context : Context) : Reader Node := do
  let start ← here
  expectWord "yield"
  let all ← if ← onNewLine then pure false else mark? "*"
  let c ← next
  let nothing := (← atStatementEnd) || c == ')' || c == ']' || c == ',' || c == ':'
  if nothing && !all then return .branch "yield_expression" start []
  return .branch "yield_expression" start [← g.assignment context]

def assignmentRule (g : Grammar) (context : Context) : Reader Node := do
  if (← word) == "yield" then return ← yieldRule g context
  let start ← here
  if ← atTypeParameters then
    if let some arrow ← optionally (genericArrow g context start) then return arrow
  let left ← conditionalRule g context
  if isArrow left then return left
  let m ← mark
  if m == "=" then
    expect "="
    let right ← g.assignment context
    return .branch "assignment_expression" left.start
      [left.toPattern.filling "left", right.filling "right"]
  if isCompoundAssignment m then
    let token ← tokenNode (expect m)
    let right ← g.assignment context
    return .branch "augmented_assignment_expression" left.start
      [left.filling "left", token.filling "operator", right.filling "right"]
  return left

def expressionRule (g : Grammar) (context : Context) : Reader Node := do
  let first ← g.assignment context
  let rest ← collect do
    if ← mark? "," then return some (← g.assignment context)
    return none
  sequenceOf (first :: rest)

end StyleAudit.Syntax.Reader
