import StyleAudit.Syntax.Pattern

/-!
Classes and what methods of classes and objects have in common.
-/

namespace StyleAudit.Syntax.Reader

/-- Whether the word that comes next stands in front of a property name instead of being one. -/
def atModifier : Reader Bool := ahead do
  let w ← anyWord
  let broken ← onNewLine
  let c ← next
  let following ← word
  let name := !following.isEmpty || isQuote c || c == '[' || c == '#' || (← atNumber)
  -- Only the older words reach over the end of a line.
  let reaches := w == "get" || w == "set" || w == "static"
  return (name || c == '*') && (!broken || reaches)

def methodModifiers (words : List String) : Reader Unit := do
  let _ ← collect do
    if words.contains (← word) then
      if ← atModifier then return some (← anyWord)
    return none

def memberModifiers (typed : Bool) : List String :=
  ["static", "async", "get", "set", "accessor"] ++
    if typed then ["public", "private", "protected", "readonly", "abstract", "override", "declare"]
    else []

def indexSignature (g : Grammar) : Reader Unit := do
  require (← source).typed
  ahead do
    expect "["
    let _ ← anyWord
    let m ← mark
    require (m == ":" || (← word) == "in")
  bracketed '[' ']'
  let m ← mark
  if m == "?" || m == "-" || m == "+" then
    expect m
    let _ ← mark? "?"
  expect ":"
  g.type

def memberRule (g : Grammar) : Reader Node := do
  let start ← here
  let decoration ← decorators g
  let atBlock ← optionally (ahead do
    expectWord "static"
    expect "\x7b")
  if atBlock.isSome then
    expectWord "static"
    return .branch "class_static_block" start [← block g]
  methodModifiers (memberModifiers (← source).typed)
  if (← optionally (indexSignature g)).isSome then
    endOfStatement
    return .branch "index_signature" start []
  let _ ← mark? "*"
  let name ← propertyName g
  if (← source).typed then
    let m ← mark
    if m == "?" || m == "!" then expect m
  let parts := decoration ++ [name.filling "name"]
  let c ← next
  if c == '(' || (c == '<' && (← source).typed) then
    return .branch "method_definition" start (parts ++ (← functionRest g))
  optionalAnnotation g
  if ← mark? "=" then
    let value ← g.assignment .plain
    endOfStatement
    return .branch "field_definition" start (parts ++ [value.filling "value"])
  endOfStatement
  return .branch "field_definition" start parts

def heritage (g : Grammar) : Reader (List Node) := do
  let mut parts := []
  if ← word? "extends" then
    parts := [← g.unary .plain]
    if (← source).typed && (← next) == '<' then typeArguments g
  if (← source).typed then
    if ← word? "implements" then typeList g
  return parts

def classRule (g : Grammar) (kind : String) (start : Point) (decoration : List Node) : Reader Node := do
  let _ ← word? "abstract"
  expectWord "class"
  let w ← word
  let named := !w.isEmpty && w != "extends" && w != "implements"
  let name ← if named then do pure [(← wordNode "identifier").filling "name"] else pure []
  optionalTypeParameters g
  let above ← heritage g
  let bodyStart ← here
  expect "\x7b"
  let members ← collect do
    let _ ← collect do
      if ← mark? ";" then return some ()
      return none
    if ← mark? "\x7d" then return none
    return some (← memberRule g)
  let body := Node.branch "class_body" bodyStart members
  return .branch kind start (decoration ++ name ++ above ++ [body.filling "body"])

end StyleAudit.Syntax.Reader
