import StyleAudit.Syntax.Literal

/-!
The entry points of the grammar. Each rule of the grammar is a plain function that is given the
readers for the parts nested in it, so the rules can be written in modules of their own and joined
once, with a bound on how deep they nest.
-/

namespace StyleAudit.Syntax

structure Context where
  /-- Whether `in` is an operator here; it is not in the head of a loop. -/
  allowsIn : Bool
  /-- Whether a colon behind a parameter list may start a result type. -/
  allowsResultType : Bool

namespace Context

def plain : Context := ⟨true, true⟩

def loopHead : Context := ⟨false, true⟩

end Context

structure Grammar where
  expression : Context → Reader Node
  assignment : Context → Reader Node
  unary : Context → Reader Node
  pattern : Reader Node
  /-- A type; types leave no nodes. -/
  type : Reader Unit
  element : Reader Node
  statement : Reader Node

def Grammar.nothing : Grammar :=
  ⟨fun _ => .fail, fun _ => .fail, fun _ => .fail, .fail, .fail, .fail, .fail⟩

namespace Reader

/-- The items between an opening mark, which has been passed, and `closing`, with commas between them;
a comma may end the list. Holes give nothing. -/
def commaList (closing : String) (item : Reader Node) : Reader (List Node) := do
  let items ← collect (α := Option Node) do
    if ← isMark closing then return none
    if ← mark? "," then return some none
    let n ← item
    unless ← isMark closing do expect ","
    return some (some n)
  expect closing
  return items.filterMap id

def endOfStatement : Reader Unit := do
  let _ ← mark? ";"

def atStatementEnd : Reader Bool := do
  if ← onNewLine then return true
  if ← atEnd then return true
  let c ← next
  return c == ';' || c == '\x7d'

def block (g : Grammar) : Reader Node := do
  let start ← here
  expect "\x7b"
  let statements ← collect do
    if ← mark? "\x7d" then return none
    return some (← g.statement)
  return .branch "statement_block" start statements

def template (g : Grammar) : Reader Node := do
  let s ← source
  let start ← tokenStart
  require (s.charAt start == '\x60')
  moveTo (start + 1)
  let substitutions ← collect do
    let stop := s.templateTextEnd s.size (← offset)
    if s.charAt stop == '$' then
      moveTo (stop + 2)
      let inner ← g.expression .plain
      expectChar '\x7d'
      return some (.branch "template_substitution" (s.point stop) [inner])
    moveTo (stop + 1)
    return none
  return .branch "template_string" (s.point start) substitutions

end Reader

end StyleAudit.Syntax
