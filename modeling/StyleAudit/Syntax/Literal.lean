import StyleAudit.Syntax.Source

/-!
Literals: strings, numbers, regular expressions and the text between the substitutions of a template.
Each is found by looking at the bytes of the source alone.
-/

namespace StyleAudit.Syntax

namespace Source

/-- The end of a literal that closes with `quote`. What follows a backslash never closes it. -/
def quotedEnd (s : Source) (quote : Char) : Nat → Nat → Nat
  | 0, offset => offset
  | bound + 1, offset =>
    let c := s.charAt offset
    if s.size ≤ offset then offset
    else if c == quote then offset + 1
    else if c == '\\' then s.quotedEnd quote bound (offset + 2)
    else s.quotedEnd quote bound (offset + 1)

/-- The end of a regular expression; a slash inside brackets does not close it. -/
def patternEnd (s : Source) : Nat → Nat → Bool → Nat
  | 0, offset, _ => offset
  | bound + 1, offset, bracketed =>
    let c := s.charAt offset
    if s.size ≤ offset then offset
    else if c == '/' && !bracketed then s.wordEnd s.size (offset + 1)
    else if c == '\\' then s.patternEnd bound (offset + 2) bracketed
    else s.patternEnd bound (offset + 1) (c == '[' || (bracketed && c != ']'))

def runEnd (s : Source) (p : Char → Bool) : Nat → Nat → Nat
  | 0, offset => offset
  | bound + 1, offset => if p (s.charAt offset) then s.runEnd p bound (offset + 1) else offset

def digitsEnd (s : Source) (offset : Nat) : Nat :=
  s.runEnd (fun c => c.isDigit || c == '_') s.size offset

def numberEnd (s : Source) (offset : Nat) : Nat :=
  let radix := (s.charAt (offset + 1)).toLower
  if s.charAt offset == '0' && (radix == 'x' || radix == 'o' || radix == 'b') then
    s.runEnd (fun c => c.isAlphanum || c == '_') s.size (offset + 2)
  else
    let whole := s.digitsEnd offset
    let fraction := if s.charAt whole == '.' then s.digitsEnd (whole + 1) else whole
    let exponent :=
      if (s.charAt fraction).toLower == 'e' then
        let sign := s.charAt (fraction + 1)
        s.digitsEnd (if sign == '+' || sign == '-' then fraction + 2 else fraction + 1)
      else fraction
    if s.charAt exponent == 'n' then exponent + 1 else exponent

def templateTextEnd (s : Source) : Nat → Nat → Nat
  | 0, offset => offset
  | bound + 1, offset =>
    let c := s.charAt offset
    if s.size ≤ offset || c == '\x60' || s.hasText offset "$\x7b" then offset
    else if c == '\\' then s.templateTextEnd bound (offset + 2)
    else s.templateTextEnd bound (offset + 1)

/-- The end of a bracketed piece of text, given the closing marks still awaited, innermost first.
Inside a template the awaited mark is the template's own. -/
def bracketedEnd (s : Source) : Nat → Nat → List Char → Option Nat
  | _, offset, [] => some offset
  | 0, _, _ => none
  | bound + 1, offset, close :: outer =>
    if s.size ≤ offset then none
    else if close == '\x60' then
      let stop := s.templateTextEnd s.size offset
      if s.charAt stop == '\x60' then s.bracketedEnd bound (stop + 1) outer
      else s.bracketedEnd bound (stop + 2) ('\x7d' :: close :: outer)
    else
      let start := (s.nextToken offset).1
      let c := s.charAt start
      if c == close then s.bracketedEnd bound (start + 1) outer
      else if c == '(' then s.bracketedEnd bound (start + 1) (')' :: close :: outer)
      else if c == '[' then s.bracketedEnd bound (start + 1) (']' :: close :: outer)
      else if c == '\x7b' then s.bracketedEnd bound (start + 1) ('\x7d' :: close :: outer)
      else if c == '\x60' then s.bracketedEnd bound (start + 1) ('\x60' :: close :: outer)
      else if c == '"' || c == '\'' then
        s.bracketedEnd bound (s.quotedEnd c s.size (start + 1)) (close :: outer)
      else s.bracketedEnd bound (start + 1) (close :: outer)

end Source

namespace Reader

def isQuote (c : Char) : Bool := c == '"' || c == '\''

def stringLiteral : Reader Node := do
  let s ← source
  let start ← tokenStart
  let quote := s.charAt start
  require (isQuote quote)
  let stop := s.quotedEnd quote s.size (start + 1)
  moveTo stop
  leaf "string" start stop

def atNumber : Reader Bool := fun s offset =>
  let start := (s.nextToken offset).1
  let c := s.charAt start
  some (c.isDigit || (c == '.' && (s.charAt (start + 1)).isDigit), offset)

def numberLiteral : Reader Node := do
  let s ← source
  let start ← tokenStart
  require (← atNumber)
  let stop := s.numberEnd start
  moveTo stop
  leaf "number" start stop

def patternLiteral : Reader Node := do
  let s ← source
  let start ← tokenStart
  require (s.charAt start == '/')
  let stop := s.patternEnd s.size (start + 1) false
  moveTo stop
  leaf "regex" start stop

def bracketed (opening closing : Char) : Reader Unit := do
  let s ← source
  let start ← tokenStart
  require (s.charAt start == opening)
  match s.bracketedEnd (2 * s.size + 2) (start + 1) [closing] with
  | some stop => moveTo stop
  | none => fail

end Reader

end StyleAudit.Syntax
