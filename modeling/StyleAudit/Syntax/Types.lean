import StyleAudit.Syntax.Grammar

/-!
Types. A type holds no style and no site, so its reader only finds where it ends.
-/

namespace StyleAudit.Syntax.Reader

def angleList (item : Reader Unit) : Reader Unit := do
  expectChar '<'
  let _ ← collect do
    if ← char? '>' then return none
    item
    unless (← next) == '>' do expectChar ','
    return some ()

def typeArguments (g : Grammar) : Reader Unit := angleList g.type

def optionalTypeArguments (g : Grammar) : Reader Unit := do
  if (← next) == '<' && !(← onNewLine) then typeArguments g

def typeParameters (g : Grammar) : Reader Unit := angleList do
  let _ ← anyWord
  let _ ← collect do
    let w ← word
    if w.isEmpty || w == "extends" then return none
    return some (← anyWord)
  if ← word? "extends" then g.type
  if ← mark? "=" then g.type

def optionalTypeParameters (g : Grammar) : Reader Unit := do
  if (← source).typed && (← next) == '<' then typeParameters g

def optionalAnnotation (g : Grammar) : Reader Unit := do
  if (← source).typed then
    if ← mark? ":" then g.type

def dottedName : Reader Unit := do
  let _ ← anyWord
  let _ ← collect do
    if ← mark? "." then
      let _ ← mark? "#"
      return some (← anyWord)
    return none

/-- Whether the parenthesis that comes next opens the parameters of a function type: it is empty or
starts with a rest parameter, or a name or a pattern in it is followed by what only follows a
parameter. -/
def atTypeOfFunction : Reader Bool := ahead do
  expect "("
  if (← isMark ")") || (← isMark "...") then return true
  match ← next with
  | '[' => bracketed '[' ']'
  | '\x7b' => bracketed '\x7b' '\x7d'
  | _ => if (← word).isEmpty then return false else let _ ← anyWord
  let m ← mark
  if m == ":" || m == "," || m == "?" || m == "=" then return true
  if m != ")" then return false
  expect ")"
  isMark "=>"

def primaryType (g : Grammar) : Reader Unit := do
  let c ← next
  if c == '(' then
    if ← atTypeOfFunction then
      bracketed '(' ')'
      expect "=>"
      g.type
    else bracketed '(' ')'
  else if c == '<' then
    typeParameters g
    bracketed '(' ')'
    expect "=>"
    g.type
  else if c == '[' then bracketed '[' ']'
  else if c == '\x7b' then bracketed '\x7b' '\x7d'
  else if c == '\x60' then
    let s ← source
    let start ← tokenStart
    match s.bracketedEnd (2 * s.size + 2) (start + 1) ['\x60'] with
    | some stop => moveTo stop
    | none => fail
  else if isQuote c then let _ ← stringLiteral
  else if c == '-' then
    expect "-"
    let _ ← numberLiteral
  else if ← atNumber then let _ ← numberLiteral
  else
    match ← word with
    | "" => fail
    | "import" =>
      expectWord "import"
      bracketed '(' ')'
      if ← mark? "." then dottedName
      optionalTypeArguments g
    | "new" =>
      expectWord "new"
      if (← next) == '<' then typeParameters g
      bracketed '(' ')'
      expect "=>"
      g.type
    | _ =>
      dottedName
      optionalTypeArguments g
      -- A claim about a parameter, as the result type of a guard.
      if (← word) == "is" && !(← onNewLine) then
        expectWord "is"
        g.type

def operandType (g : Grammar) : Reader Unit := do
  let operators ← collect do
    let w ← word
    let operator := w == "keyof" || w == "unique" || w == "readonly" || w == "typeof" ||
      w == "asserts" || w == "infer" || w == "abstract"
    if !operator then return none
    -- The word is an operator only if a type follows on the same line.
    let follows ← ahead do
      let _ ← anyWord
      if ← onNewLine then return false
      let c ← next
      let following ← word
      return (!following.isEmpty && following != "is" && following != "extends") ||
        c == '(' || c == '[' || c == '\x7b' || isQuote c || c == '\x60' || c == '-' || (← atNumber)
    if follows then return some (← anyWord)
    return none
  primaryType g
  let _ ← collect do
    if (← next) == '[' && !(← onNewLine) then
      bracketed '[' ']'
      return some ()
    return none
  -- The bound of an inferred type, unless a choice between types starts here.
  if operators.contains "infer" then
    let _ ← optionally do
      require ((← word) == "extends")
      expectWord "extends"
      primaryType g
      require (!(← isMark "?"))

def typeRule (g : Grammar) : Reader Unit := do
  let _ ← mark? "|"
  let _ ← mark? "&"
  operandType g
  let _ ← collect do
    let m ← mark
    if m == "|" || m == "&" then
      expect m
      operandType g
      return some ()
    return none
  if (← word) == "extends" && !(← onNewLine) then
    expectWord "extends"
    g.type
    expect "?"
    g.type
    expect ":"
    g.type

def typeList (g : Grammar) : Reader Unit := do
  g.type
  let _ ← collect do
    if ← mark? "," then
      g.type
      return some ()
    return none

end StyleAudit.Syntax.Reader
