import StyleAudit.Syntax.Node

/-!
Source texts and readers of them.

A reader starts at an offset of the source and either fails or returns a result and the offset behind
what it has read. Readers fail only to let another reading be tried. Repetition is bounded by the
number of bytes that are left, so every reader ends.
-/

namespace StyleAudit.Syntax

structure Source where
  bytes : ByteArray
  points : Array Point
  typed : Bool
  markup : Bool

/-- Where each byte stands, and the end. Only a line feed starts a new row. -/
def pointsOf (bytes : ByteArray) : Array Point :=
  let (points, last) := bytes.foldl
    (fun (points, p) b => (points.push p, if b == 10 then ⟨p.row + 1, 0⟩ else ⟨p.row, p.column + 1⟩))
    ((#[] : Array Point), (⟨0, 0⟩ : Point))
  points.push last

namespace Source

def ofBytes (bytes : ByteArray) (typed markup : Bool) : Source :=
  ⟨bytes, pointsOf bytes, typed, markup⟩

def size (s : Source) : Nat := s.bytes.size

def charAt (s : Source) (offset : Nat) : Char :=
  match s.bytes[offset]? with
  | some b => Char.ofNat b.toNat
  | none => '\x00'

def point (s : Source) (offset : Nat) : Point :=
  s.points.getD offset ⟨0, 0⟩

def slice (s : Source) (start stop : Nat) : List UInt8 :=
  (s.bytes.extract start stop).toList

/-- Whether `chars`, which are ASCII, stand at an offset. -/
def hasChars (s : Source) (offset : Nat) : List Char → Bool
  | [] => true
  | c :: rest => s.charAt offset == c && s.hasChars (offset + 1) rest

def hasText (s : Source) (offset : Nat) (text : String) : Bool :=
  s.hasChars offset text.toList

/-! ## Blanks and comments -/

/-- Whether a line ends at the offset, and in how many bytes. -/
def lineBreakLength (s : Source) (offset : Nat) : Nat :=
  match s.charAt offset with
  | '\n' => 1
  | '\xE2' =>
    if s.charAt (offset + 1) == '\x80' && (s.charAt (offset + 2) == '\xA8' || s.charAt (offset + 2) == '\xA9')
    then 3 else 0
  | _ => 0

def blankLength (s : Source) (offset : Nat) : Nat :=
  let second := s.charAt (offset + 1)
  let third := s.charAt (offset + 2)
  match s.charAt offset with
  | ' ' | '\t' | '\n' | '\r' | '\x0B' | '\x0C' => 1
  | '\xC2' => if second == '\xA0' then 2 else 0
  | '\xE1' => if second == '\x9A' && third == '\x80' then 3 else 0
  | '\xE2' =>
    if second == '\x80' then
      if ('\x80' ≤ third && third ≤ '\x8B') || third == '\xA8' || third == '\xA9' || third == '\xAF'
      then 3 else 0
    else if second == '\x81' && (third == '\x9F' || third == '\xA0') then 3 else 0
  | '\xE3' => if second == '\x80' && third == '\x80' then 3 else 0
  | '\xEF' => if second == '\xBB' && third == '\xBF' then 3 else 0
  | _ => 0

def lineCommentEnd (s : Source) : Nat → Nat → Nat
  | 0, offset => offset
  | bound + 1, offset =>
    if s.size ≤ offset || s.charAt offset == '\r' || s.lineBreakLength offset != 0 then offset
    else s.lineCommentEnd bound (offset + 1)

/-- The end of a delimited comment, and whether a line ends inside it. -/
def blockCommentEnd (s : Source) : Nat → Nat → Bool → Nat × Bool
  | 0, offset, broken => (offset, broken)
  | bound + 1, offset, broken =>
    if s.size ≤ offset then (offset, broken)
    else if s.hasText offset "*/" then (offset + 2, broken)
    else s.blockCommentEnd bound (offset + 1) (broken || s.lineBreakLength offset != 0)

def triviaEnd (s : Source) : Nat → Nat → Bool → Nat × Bool
  | 0, offset, broken => (offset, broken)
  | bound + 1, offset, broken =>
    let blank := s.blankLength offset
    if blank != 0 then
      s.triviaEnd bound (offset + blank) (broken || s.lineBreakLength offset != 0)
    else if s.hasText offset "//" then
      s.triviaEnd bound (s.lineCommentEnd s.size (offset + 2)) broken
    else if s.hasText offset "/*" then
      let (next, inside) := s.blockCommentEnd s.size (offset + 2) broken
      s.triviaEnd bound next inside
    else (offset, broken)

def nextToken (s : Source) (offset : Nat) : Nat × Bool :=
  s.triviaEnd (s.size + 1) offset false

/-! ## Words -/

def isWordStart (s : Source) (offset : Nat) : Bool :=
  let c := s.charAt offset
  c.isAlpha || c == '$' || c == '_' || c == '\\' || ('\x80' ≤ c && s.blankLength offset == 0)

def escapeEnd (s : Source) : Nat → Nat → Nat
  | 0, offset => offset
  | bound + 1, offset =>
    if s.size ≤ offset then offset
    else if s.charAt offset == '\x7d' then offset + 1
    else s.escapeEnd bound (offset + 1)

/-- The end of the word whose characters go on at the offset. An escape such as `\u{41}` is part of
the word. -/
def wordEnd (s : Source) : Nat → Nat → Nat
  | 0, offset => offset
  | bound + 1, offset =>
    if s.hasText offset "\\u\x7b" then s.wordEnd bound (s.escapeEnd s.size (offset + 3))
    else if s.isWordStart offset || (s.charAt offset).isDigit then s.wordEnd bound (offset + 1)
    else offset

end Source

/-! ## Readers -/

def Reader (α : Type) : Type := Source → Nat → Option (α × Nat)

namespace Reader

variable {α β : Type}

instance : Monad Reader where
  pure a := fun _ offset => some (a, offset)
  bind r f := fun source offset =>
    match r source offset with
    | some (a, next) => f a source next
    | none => none

instance : Inhabited (Reader α) := ⟨fun _ _ => none⟩

def fail : Reader α := fun _ _ => none

def source : Reader Source := fun s offset => some (s, offset)

def offset : Reader Nat := fun _ offset => some (offset, offset)

def moveTo (offset : Nat) : Reader Unit := fun _ _ => some ((), offset)

def require (condition : Bool) : Reader Unit := if condition then pure () else fail

def optionally (r : Reader α) : Reader (Option α) := fun source offset =>
  match r source offset with
  | some (a, next) => some (some a, next)
  | none => some (none, offset)

def ahead (r : Reader α) : Reader α := fun source offset =>
  match r source offset with
  | some (a, _) => some (a, offset)
  | none => none

def orElse (first second : Reader α) : Reader α := fun source offset =>
  match first source offset with
  | some result => some result
  | none => second source offset

/-- Repeats `step` up to `bound` times, as long as it returns a new value. -/
def repeatWithin (step : α → Reader (Option α)) : Nat → α → Reader α
  | 0, a => pure a
  | bound + 1, a => do
    match ← step a with
    | some next => repeatWithin step bound next
    | none => pure a

/-- Repeats `step` as long as it returns a new value; each time it has to read something. -/
def repeating (step : α → Reader (Option α)) (start : α) : Reader α := do
  repeatWithin step ((← source).size + 1 - (← offset)) start

def collect (item : Reader (Option α)) : Reader (List α) := do
  let found ← repeating (fun (found : Array α) => do pure ((← item).map found.push)) #[]
  pure found.toList

def skipTrivia : Reader Unit := fun s offset => some ((), (s.nextToken offset).1)

def onNewLine : Reader Bool := fun s offset => some ((s.nextToken offset).2, offset)

def tokenStart : Reader Nat := do
  skipTrivia
  offset

def next : Reader Char := fun s offset => some (s.charAt (s.nextToken offset).1, offset)

def atEnd : Reader Bool := fun s offset => some (s.size ≤ (s.nextToken offset).1, offset)

/-! ### Punctuation -/

def longMarks : List String :=
  [">>>=", "...", "===", "!==", "**=", "<<=", ">>=", ">>>", "&&=", "||=", "??=", "=>", "==", "!=", "<=",
    ">=", "&&", "||", "??", "?.", "++", "--", "+=", "-=", "*=", "/=", "%=", "&=", "|=", "^=", "<<",
    ">>", "**"]

/-- The mark that stands at an offset. A question mark before a decimal fraction stands alone, and the
dot of the fraction is no mark. -/
def markAt (s : Source) (offset : Nat) : String :=
  match longMarks.find? (s.hasText offset) with
  | some "?." => if (s.charAt (offset + 2)).isDigit then "?" else "?."
  | some mark => mark
  | none =>
    if s.charAt offset == '.' && (s.charAt (offset + 1)).isDigit then ""
    else (s.charAt offset).toString

def mark : Reader String := fun s offset => some (markAt s (s.nextToken offset).1, offset)

def isMark (m : String) : Reader Bool := do return (← mark) == m

/-- Passes the mark if it comes next, and tells whether it did. -/
def mark? (m : String) : Reader Bool := fun s offset =>
  let start := (s.nextToken offset).1
  if markAt s start == m then some (true, start + m.utf8ByteSize) else some (false, offset)

def expect (m : String) : Reader Unit := do require (← mark? m)

/-- Passes a character that comes next, even if it starts a longer mark. -/
def char? (c : Char) : Reader Bool := fun s offset =>
  let start := (s.nextToken offset).1
  if s.charAt start == c then some (true, start + 1) else some (false, offset)

def expectChar (c : Char) : Reader Unit := do require (← char? c)

/-! ### Words -/

def wordSpan : Reader (String × Nat) := fun s offset =>
  let start := (s.nextToken offset).1
  if s.isWordStart start then
    let stop := s.wordEnd s.size start
    some ((Text.Utf8.decode (s.slice start stop), stop), offset)
  else some (("", start), offset)

def word : Reader String := do return (← wordSpan).1

def word? (w : String) : Reader Bool := do
  let (found, stop) ← wordSpan
  if found == w then
    moveTo stop
    return true
  return false

def expectWord (w : String) : Reader Unit := do require (← word? w)

def anyWord : Reader String := do
  let (found, stop) ← wordSpan
  require (!found.isEmpty)
  moveTo stop
  return found

/-! ### Nodes -/

def here : Reader Point := fun s offset => some (s.point (s.nextToken offset).1, offset)

def leaf (kind : String) (start stop : Nat) : Reader Node := fun s offset =>
  some (⟨kind, true, none, false, s.point start, some (s.slice start stop), []⟩, offset)

def wordNode (kind : String) : Reader Node := do
  let start ← tokenStart
  let _ ← anyWord
  leaf kind start (← offset)

def tokenNode (r : Reader Unit) : Reader Node := do
  let s ← source
  let start ← tokenStart
  r
  let text := s.slice start (← offset)
  return ⟨Text.Utf8.decode text, false, none, false, s.point start, some text, []⟩

end Reader

namespace Node

def branch (kind : String) (start : Point) (children : List Node) : Node :=
  ⟨kind, true, none, false, start, none, children⟩

def filling (n : Node) (field : String) : Node := { n with field := some field }

end Node

end StyleAudit.Syntax
