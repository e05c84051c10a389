import StyleAudit.Syntax.Types

/-!
Property names, binding targets and parameters.

A target of an assignment is first read as an expression, since only what follows it tells that it is
one; `Node.toPattern` then turns the expression into the target it spells.
-/

namespace StyleAudit.Syntax

namespace Node

mutual

def toPattern : Node → Node
  | ⟨kind, named, field, missing, start, text, children⟩ =>
    match kind with
    | "object" => ⟨"object_pattern", named, field, missing, start, text, toEntryPatterns children⟩
    | "array" => ⟨"array_pattern", named, field, missing, start, text, toPatterns children⟩
    | "assignment_expression" => ⟨"assignment_pattern", named, field, missing, start, text, children⟩
    | "spread_element" => ⟨"rest_pattern", named, field, missing, start, text, toPatterns children⟩
    | kind => ⟨kind, named, field, missing, start, text, children⟩

def toPatterns : List Node → List Node
  | [] => []
  | n :: rest => n.toPattern :: toPatterns rest

def toEntryPatterns : List Node → List Node
  | [] => []
  | ⟨"pair", named, field, missing, start, text, [key, value]⟩ :: rest =>
    ⟨"pair_pattern", named, field, missing, start, text, [key, value.toPattern]⟩ ::
      toEntryPatterns rest
  | ⟨"shorthand_property_identifier", named, field, missing, start, text, children⟩ :: rest =>
    ⟨"shorthand_property_identifier_pattern", named, field, missing, start, text, children⟩ ::
      toEntryPatterns rest
  | n :: rest => n.toPattern :: toEntryPatterns rest

end

end Node

namespace Reader

def computedName (g : Grammar) : Reader Node := do
  let start ← here
  expect "["
  let inner ← g.expression .plain
  expect "]"
  return .branch "computed_property_name" start [inner]

def privateName : Reader Node := do
  let start ← tokenStart
  expect "#"
  let _ ← anyWord
  leaf "private_property_identifier" start (← offset)

def propertyName (g : Grammar) : Reader Node := do
  let c ← next
  if isQuote c then stringLiteral
  else if c == '[' then computedName g
  else if c == '#' then privateName
  else if ← atNumber then numberLiteral
  else wordNode "property_identifier"

def withDefault (g : Grammar) (target : Node) : Reader Node := do
  if ← mark? "=" then
    let value ← g.assignment .plain
    return .branch "assignment_pattern" target.start [target.filling "left", value.filling "right"]
  return target

def restPattern (g : Grammar) : Reader Node := do
  let start ← here
  expect "..."
  let inner ← g.pattern
  return .branch "rest_pattern" start [inner]

def entryPattern (g : Grammar) : Reader Node := do
  if ← isMark "..." then restPattern g
  else
    let key ← propertyName g
    if ← mark? ":" then
      let value ← withDefault g (← g.pattern)
      return .branch "pair_pattern" key.start [key.filling "key", value.filling "value"]
    let name := { key with kind := "shorthand_property_identifier_pattern" }
    if ← mark? "=" then
      let value ← g.assignment .plain
      return .branch "object_assignment_pattern" key.start [name.filling "left", value.filling "right"]
    return name

def patternRule (g : Grammar) : Reader Node := do
  let start ← here
  if ← mark? "\x7b" then
    return .branch "object_pattern" start (← commaList "\x7d" (entryPattern g))
  if ← mark? "[" then
    let element := do
      if ← isMark "..." then restPattern g else withDefault g (← g.pattern)
    return .branch "array_pattern" start (← commaList "]" element)
  wordNode "identifier"

/-! ## Parameters -/

def decorator (g : Grammar) : Reader Node := do
  let start ← here
  expect "@"
  let inner ← g.unary .plain
  return .branch "decorator" start [inner]

def decorators (g : Grammar) : Reader (List Node) := collect do
  if (← next) == '@' then return some (← decorator g)
  return none

/-- Passes the words in front of a parameter that declare a field by the same name. -/
def parameterModifiers : Reader Unit := do
  let _ ← collect do
    let w ← word
    let modifier := w == "public" || w == "private" || w == "protected" || w == "readonly" ||
      w == "override"
    if !modifier then return none
    let follows ← ahead do
      let _ ← anyWord
      let c ← next
      return !(← word).isEmpty || c == '\x7b' || c == '['
    if follows then return some (← anyWord)
    return none

def parameter (g : Grammar) : Reader Node := do
  let start ← here
  let decoration ← decorators g
  if (← source).typed then parameterModifiers
  let target ← if ← isMark "..." then restPattern g else g.pattern
  if (← source).typed then
    let _ ← mark? "?"
    optionalAnnotation g
  let parts := decoration ++ [target.filling "pattern"]
  if ← mark? "=" then
    let value ← g.assignment .plain
    return .branch "required_parameter" start (parts ++ [value.filling "value"])
  return .branch "required_parameter" start parts

def parameters (g : Grammar) : Reader Node := do
  let start ← here
  expect "("
  return .branch "formal_parameters" start (← commaList ")" (parameter g))

/-- What follows the name of a function: its parameters and its body, which a mere signature lacks. -/
def functionRest (g : Grammar) : Reader (List Node) := do
  optionalTypeParameters g
  let ps ← parameters g
  optionalAnnotation g
  if (← next) == '\x7b' then
    return [ps.filling "parameters", (← block g).filling "body"]
  endOfStatement
  return [ps.filling "parameters"]

end Reader

end StyleAudit.Syntax
