import StyleAudit.Text.Lowercase

/-!
Terminals and what can be shown on them. A terminal that cannot show every character is given ASCII
texts in place of the icons.
-/

namespace StyleAudit

inductive PreferredEncoding where
  | named (encoding : String)
  /-- The locale names no encoding that is known. -/
  | unknown
  | failing (reason : String)
  deriving Repr, DecidableEq, Inhabited

structure Terminal where
  stream : Option String
  preferred : PreferredEncoding
  deriving Repr, DecidableEq, Inhabited

/-- What a run writes to: a terminal, the name of its system, and the characters that the encoding of
the stream has. -/
structure Stream where
  terminal : Terminal
  platform : String
  encodes : Char → Bool

structure LocaleFailure where
  reason : String
  deriving Repr, DecidableEq

namespace Terminal

def named (encoding : String) : Terminal := ⟨some encoding, .named "UTF-8"⟩

/-- The name of the encoding in lower case: that of the stream, else the preferred one, else ASCII. -/
def encoding (t : Terminal) : Except LocaleFailure String :=
  match t.stream.filter fun name => !name.isEmpty with
  | some name => .ok (Text.lowercase name)
  | none =>
    match t.preferred with
    | .named name => .ok (Text.lowercase name)
    | .unknown => .ok "ascii"
    | .failing reason => .error ⟨reason⟩

/-- Whether a name of an encoding, apart from hyphens and underscores, is that of UTF-8. -/
def isUtf8Name (name : String) : Bool :=
  String.ofList (name.toList.filter fun c => c != '-' && c != '_') == "utf8"

def showsAll (t : Terminal) : Except LocaleFailure Bool := do
  return isUtf8Name (← t.encoding)

end Terminal

/-! ## Icons -/

def icons : List (Char × String) :=
  [('✓', "[OK]"), ('✗', "[FAIL]"), ('⚠', "[WARN]"), ('→', "->"), ('…', "..."), ('•', "*"), ('│', "|"),
    ('─', "-")]

def replaceIcon (icon : Char) (replacement : String) (text : List Char) : List Char :=
  text.flatMap fun c => if c = icon then replacement.toList else [c]

def replaceIcons (text : String) : String :=
  String.ofList (icons.foldl (fun chars icon => replaceIcon icon.1 icon.2 chars) text.toList)

def Terminal.sanitize (t : Terminal) (text : String) : Except LocaleFailure String := do
  return if ← t.showsAll then text else replaceIcons text

/-! ## Consoles -/

inductive Printed (α : Type) where
  | text (text : String)
  | object (object : α)
  deriving Inhabited

structure Console where
  sanitizes : Bool
  legacy : Bool
  deriving Repr, DecidableEq, Inhabited

namespace Console

def open_ (t : Terminal) (platform : String) : Except LocaleFailure Console := do
  let sanitizes := !(← t.showsAll)
  return ⟨sanitizes, sanitizes && platform == "win32"⟩

/-- What is handed on to be drawn. The terminal is asked again at every print. -/
def print {α : Type} (c : Console) (t : Terminal) (objects : List (Printed α)) :
    Except LocaleFailure (List (Printed α)) :=
  if c.sanitizes then
    objects.mapM fun
      | .text text => do return .text (← t.sanitize text)
      | .object object => pure (.object object)
  else pure objects

end Console

end StyleAudit
