import StyleAudit.Syntax.Expression

/-!
Statements and declarations. Where a statement may end without a semicolon, its reader simply stops at
the first token that cannot go on.
-/

namespace StyleAudit.Syntax.Reader

/-! ## Variables -/

def declarator (g : Grammar) (context : Context) (target : Node) : Reader Node := do
  if (← source).typed then
    if ← isMark "!" then expect "!"
    optionalAnnotation g
  let parts := [target.filling "name"]
  if ← mark? "=" then
    let value ← g.assignment context
    return .branch "variable_declarator" target.start (parts ++ [value.filling "value"])
  return .branch "variable_declarator" target.start parts

def moreDeclarators (g : Grammar) (context : Context) : Reader (List Node) := collect do
  if ← mark? "," then return some (← declarator g context (← g.pattern))
  return none

def atVariables : Reader Bool := do
  let w ← word
  if w == "var" || w == "const" then return true
  if w != "let" then return false
  ahead do
    let _ ← anyWord
    let c ← next
    let following ← word
    return c == '[' || c == '\x7b' || (!following.isEmpty && following != "in" &&
      following != "instanceof")

def variableDeclaration (g : Grammar) : Reader Node := do
  let start ← here
  let w ← anyWord
  let first ← declarator g .plain (← g.pattern)
  let rest ← moreDeclarators g .plain
  endOfStatement
  let kind := if w == "var" then "variable_declaration" else "lexical_declaration"
  return .branch kind start (first :: rest)

/-! ## Control flow -/

def parenthesizedTest (g : Grammar) : Reader Node := do
  let start ← here
  expect "("
  let inner ← g.expression .plain
  expect ")"
  return .branch "parenthesized_expression" start [inner]

def ifRule (g : Grammar) : Reader Node := do
  let start ← here
  expectWord "if"
  let test ← parenthesizedTest g
  let consequence ← g.statement
  if ← word? "else" then
    return .branch "if_statement" start [test, consequence, ← g.statement]
  return .branch "if_statement" start [test, consequence]

/-- The head of a loop over the members of a value, given what comes in front of `of` or `in`. -/
def overTail? (g : Grammar) : Reader (Option Node) := do
  let w ← word
  if w == "of" || w == "in" then
    expectWord w
    return some (← g.expression .plain)
  return none

def countingTail (g : Grammar) : Reader (List Node) := do
  expect ";"
  let test ← if ← isMark ";" then pure [] else do pure [← g.expression .plain]
  expect ";"
  let step ← if ← isMark ")" then pure [] else do pure [← g.expression .plain]
  return test ++ step

def loopHead (g : Grammar) : Reader (String × List Node) := do
  if ← isMark ";" then return ("for_statement", ← countingTail g)
  if ← atVariables then
    let start ← here
    let _ ← anyWord
    let target ← g.pattern
    if let some source ← overTail? g then
      return ("for_in_statement", [target.filling "left", source.filling "right"])
    let first ← declarator g .loopHead target
    if let some source ← overTail? g then return ("for_in_statement", first.children ++ [source])
    let rest ← moreDeclarators g .loopHead
    let declared := Node.branch "lexical_declaration" start (first :: rest)
    return ("for_statement", declared :: (← countingTail g))
  let first ← g.expression .loopHead
  if let some source ← overTail? g then
    return ("for_in_statement", [first.toPattern.filling "left", source.filling "right"])
  return ("for_statement", first :: (← countingTail g))

def forRule (g : Grammar) : Reader Node := do
  let start ← here
  expectWord "for"
  let _ ← word? "await"
  expect "("
  let (kind, head) ← loopHead g
  expect ")"
  return .branch kind start (head ++ [← g.statement])

def whileRule (g : Grammar) : Reader Node := do
  let start ← here
  expectWord "while"
  let test ← parenthesizedTest g
  return .branch "while_statement" start [test, ← g.statement]

def doRule (g : Grammar) : Reader Node := do
  let start ← here
  expectWord "do"
  let body ← g.statement
  expectWord "while"
  let test ← parenthesizedTest g
  endOfStatement
  return .branch "do_statement" start [body, test]

def caseRule (g : Grammar) : Reader Node := do
  let start ← here
  let value ← if ← word? "default" then pure [] else do
    expectWord "case"
    pure [← g.expression .plain]
  expect ":"
  let statements ← collect do
    let w ← word
    if w == "case" || (← next) == '\x7d' then return none
    if w == "default" then
      let last ← ahead do
        expectWord "default"
        isMark ":"
      if last then return none
    return some (← g.statement)
  return .branch "switch_case" start (value ++ statements)

def switchRule (g : Grammar) : Reader Node := do
  let start ← here
  expectWord "switch"
  let value ← parenthesizedTest g
  expect "\x7b"
  let cases ← collect do
    if ← mark? "\x7d" then return none
    return some (← caseRule g)
  return .branch "switch_statement" start (value :: cases)

def catchRule (g : Grammar) : Reader (List Node) := do
  let start ← here
  if ← word? "catch" then
    let target ← if ← mark? "(" then do
        let target ← g.pattern
        optionalAnnotation g
        expect ")"
        pure [target]
      else pure []
    return [.branch "catch_clause" start (target ++ [← block g])]
  return []

def tryRule (g : Grammar) : Reader Node := do
  let start ← here
  expectWord "try"
  let body ← block g
  let handler ← catchRule g
  let finalStart ← here
  if ← word? "finally" then
    let final := Node.branch "finally_clause" finalStart [← block g]
    return .branch "try_statement" start (body :: handler ++ [final])
  return .branch "try_statement" start (body :: handler)

def jumpRule (g : Grammar) (w kind : String) : Reader Node := do
  let start ← here
  expectWord w
  if ← atStatementEnd then
    endOfStatement
    return .branch kind start []
  let value ← g.expression .plain
  endOfStatement
  return .branch kind start [value]

/-! ## Modules -/

/-- Passes what stands between `import` or `export` and the end of the statement, up to the name of the
module and the attributes behind it. -/
def moduleClause (g : Grammar) : Reader (List Node) := do
  let values ← collect (α := List Node) do
    let c ← next
    if c == '\x7b' then
      bracketed '\x7b' '\x7d'
      return some []
    if c == '*' || c == ',' then
      expectChar c
      return some []
    if isQuote c then
      let _ ← stringLiteral
      let w ← word
      if w == "with" || (w == "assert" && !(← onNewLine)) then
        expectWord w
        bracketed '\x7b' '\x7d'
      return none
    if ← mark? "=" then
      let value ← g.assignment .plain
      return some [value]
    let w ← word
    let clauseWord := w == "from" || w == "as" || w == "type" || !(← onNewLine)
    if w.isEmpty || !clauseWord then return none
    let _ ← anyWord
    return some []
  endOfStatement
  return values.flatten

def importRule (g : Grammar) : Reader Node := do
  let start ← here
  expectWord "import"
  return .branch "import_statement" start (← moduleClause g)

/-! ## Type declarations -/

def enumRule (g : Grammar) : Reader Node := do
  let start ← here
  let _ ← word? "const"
  expectWord "enum"
  let _ ← anyWord
  expect "\x7b"
  let item := do
    let name ← propertyName g
    if ← mark? "=" then
      let value ← g.assignment .plain
      return Node.branch "enum_assignment" name.start [name.filling "name", value.filling "value"]
    return name
  return .branch "enum_declaration" start (← commaList "\x7d" item)

def interfaceRule (g : Grammar) : Reader Node := do
  let start ← here
  expectWord "interface"
  let _ ← anyWord
  optionalTypeParameters g
  if ← word? "extends" then typeList g
  bracketed '\x7b' '\x7d'
  return .branch "interface_declaration" start []

def aliasRule (g : Grammar) : Reader Node := do
  let start ← here
  expectWord "type"
  let _ ← anyWord
  optionalTypeParameters g
  expect "="
  g.type
  endOfStatement
  return .branch "type_alias_declaration" start []

def namespaceRule (g : Grammar) : Reader Node := do
  let start ← here
  let _ ← anyWord
  if isQuote (← next) then let _ ← stringLiteral
  else if (← next) != '\x7b' then dottedName
  if (← next) == '\x7b' then
    return .branch "internal_module" start [← block g]
  endOfStatement
  return .branch "internal_module" start []

/-- Whether a word comes next and a second one behind it on the same line. -/
def atWords (first : String) (second : String → Char → Bool) : Reader Bool := do
  if (← word) != first then return false
  ahead do
    let _ ← anyWord
    if ← onNewLine then return false
    return second (← word) (← next)

def typeDeclaration? (g : Grammar) : Reader (Option Node) := do
  if !(← source).typed then return none
  let named (w : String) (_ : Char) : Bool := !w.isEmpty && w != "in" && w != "instanceof" && w != "as"
  let start ← here
  if ← atWords "type" named then return some (← aliasRule g)
  if ← atWords "interface" named then return some (← interfaceRule g)
  if ← atWords "enum" named then return some (← enumRule g)
  if ← atWords "const" (fun w _ => w == "enum") then return some (← enumRule g)
  if ← atWords "namespace" named then return some (← namespaceRule g)
  if ← atWords "module" (fun w c => named w c || isQuote c) then return some (← namespaceRule g)
  if ← atWords "global" (fun _ c => c == '\x7b') then return some (← namespaceRule g)
  if ← atWords "abstract" (fun w _ => w == "class") then
    return some (← classRule g "abstract_class_declaration" start [])
  if ← atWords "declare" named then
    expectWord "declare"
    return some (.branch "ambient_declaration" start [← g.statement])
  return none

/-! ## Statements -/

def functionDeclaration (g : Grammar) : Reader Node := do
  let start ← here
  let _ ← word? "async"
  let f ← functionExpression g start
  return { f with kind := "function_declaration" }

def atFunction : Reader Bool := do
  if (← word) == "function" then return true
  atWords "async" fun w _ => w == "function"

def defaultExport (g : Grammar) : Reader Node := do
  let start ← here
  if ← atFunction then return ← functionDeclaration g
  let decoration ← decorators g
  let w ← word
  if w == "class" then return ← classRule g "class_declaration" start decoration
  if let some declaration ← typeDeclaration? g then return declaration
  let value ← g.expression .plain
  endOfStatement
  return value

def exportRule (g : Grammar) : Reader Node := do
  let start ← here
  expectWord "export"
  if ← word? "default" then return .branch "export_statement" start [← defaultExport g]
  let c ← next
  let listed := c == '\x7b' || c == '*' || c == '='
  let w ← word
  let typeList ← atWords "type" fun _ c => c == '\x7b' || c == '*'
  if listed || typeList || w == "as" || w == "import" then
    return .branch "export_statement" start (← moduleClause g)
  return .branch "export_statement" start [← g.statement]

def atLabel : Reader Bool := do
  if (← word).isEmpty then return false
  ahead do
    let _ ← anyWord
    isMark ":"

def labelRule (g : Grammar) : Reader Node := do
  let start ← here
  let _ ← anyWord
  expect ":"
  return .branch "labeled_statement" start [← g.statement]

def expressionStatement (g : Grammar) : Reader Node := do
  let start ← here
  let value ← g.expression .plain
  endOfStatement
  return .branch "expression_statement" start [value]

def keywordStatement? (g : Grammar) : Reader (Option Node) := do
  let start ← here
  let w ← word
  match w with
  | "if" => return some (← ifRule g)
  | "for" => return some (← forRule g)
  | "while" => return some (← whileRule g)
  | "do" => return some (← doRule g)
  | "switch" => return some (← switchRule g)
  | "try" => return some (← tryRule g)
  | "return" => return some (← jumpRule g w "return_statement")
  | "throw" => return some (← jumpRule g w "throw_statement")
  | "break" => return some (← jumpRule g w "break_statement")
  | "continue" => return some (← jumpRule g w "continue_statement")
  | "debugger" => return some (← jumpRule g w "debugger_statement")
  | "with" =>
    expectWord "with"
    let object ← parenthesizedTest g
    return some (.branch "with_statement" start [object, ← g.statement])
  | "class" => return some (← classRule g "class_declaration" start [])
  | "export" => return some (← exportRule g)
  | "import" =>
    let expression ← ahead do
      expectWord "import"
      let c ← next
      return c == '(' || c == '.'
    if expression then return none
    return some (← importRule g)
  | _ => return none

def statementRule (g : Grammar) : Reader Node := do
  let start ← here
  let c ← next
  if c == '\x7b' then return ← block g
  if ← mark? ";" then return .branch "empty_statement" start []
  if c == '@' then
    let decoration ← decorators g
    if (← word) == "export" then
      let exported ← exportRule g
      return .branch "export_statement" start (decoration ++ exported.children)
    return ← classRule g "class_declaration" start decoration
  if let some declaration ← typeDeclaration? g then return declaration
  if ← atVariables then return ← variableDeclaration g
  if ← atFunction then return ← functionDeclaration g
  if let some statement ← keywordStatement? g then return statement
  if ← atLabel then return ← labelRule g
  expressionStatement g

end StyleAudit.Syntax.Reader
