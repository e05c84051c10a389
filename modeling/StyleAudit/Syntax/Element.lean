import StyleAudit.Syntax.Pattern

/-!
Markup elements. Between the tags of an element stands plain text, which leaves no nodes, with
elements and expressions in braces among it.
-/

namespace StyleAudit.Syntax

/-- The end of plain text between tags: before a tag or a brace, or at the end of the source. -/
def Source.plainTextEnd (s : Source) (offset : Nat) : Nat :=
  s.runEnd (fun c => c != '<' && c != '\x7b' && c != '\x00') s.size offset

namespace Reader

def tagWord : Reader Unit := do
  let s ← source
  let start ← tokenStart
  require (s.isWordStart start)
  let _ ← repeating (fun stop => do
    let more := s.wordEnd s.size stop
    if s.charAt more == '-' then return some (more + 1)
    moveTo more
    return none) start

def tagName : Reader Unit := do
  tagWord
  let _ ← collect do
    let m ← mark
    if m == "." || m == ":" then
      expect m
      tagWord
      return some ()
    return none

def braced (g : Grammar) : Reader Node := do
  let start ← here
  expect "\x7b"
  if ← mark? "\x7d" then return .branch "jsx_expression" start []
  let inner ← here
  let value ← if ← mark? "..." then
      pure (Node.branch "spread_element" inner [← g.assignment .plain])
    else g.expression .plain
  expectChar '\x7d'
  return .branch "jsx_expression" start [value]

def attributeName : Reader Node := do
  let start ← tokenStart
  tagWord
  let stop ← offset
  if ← mark? ":" then
    tagWord
    leaf "jsx_namespace_name" start (← offset)
  else leaf "property_identifier" start stop

/-- A text in quotes as the value of an attribute; nothing in it is an escape. -/
def attributeText : Reader Node := do
  let s ← source
  let start ← tokenStart
  let quote := s.charAt start
  require (isQuote quote)
  let stop := s.runEnd (· != quote) s.size (start + 1) + 1
  moveTo stop
  leaf "string" start stop

def attributeRule (g : Grammar) : Reader Node := do
  let c ← next
  if c == '\x7b' then braced g
  else
    let name ← attributeName
    if ← mark? "=" then
      let c ← next
      let value ← if isQuote c then attributeText
        else if c == '\x7b' then braced g
        else g.element
      return .branch "jsx_attribute" name.start [name, value]
    return .branch "jsx_attribute" name.start [name]

def contents (g : Grammar) : Reader (List Node) := collect do
  let s ← source
  let start := s.plainTextEnd (← offset)
  moveTo start
  if s.charAt start == '\x7b' then return some (← braced g)
  require (s.charAt start == '<')
  let closing ← optionally do
    expectChar '<'
    expectChar '/'
    if (← next) != '>' then tagName
    expectChar '>'
  if closing.isSome then return none
  return some (← g.element)

def elementRule (g : Grammar) : Reader Node := do
  let start ← here
  expectChar '<'
  if ← char? '>' then
    return .branch "jsx_element" start (← contents g)
  tagName
  if (← source).typed && (← next) == '<' then typeArguments g
  let attributes ← collect do
    let c ← next
    if c == '>' || c == '/' then return none
    return some (← attributeRule g)
  if ← char? '/' then
    expectChar '>'
    return .branch "jsx_self_closing_element" start attributes
  expectChar '>'
  let inner ← contents g
  return .branch "jsx_element" start (.branch "jsx_opening_element" start attributes :: inner)

end Reader

end StyleAudit.Syntax
