import StyleAudit.Text.Quoted

/-!
Data written as JSON, one member a line. Only what has to be escaped is: quotes, backslashes and
control characters.
-/

namespace StyleAudit.Text

inductive JsonValue where
  | text (text : String)
  | number (n : Nat)
  | list (items : List JsonValue)
  | object (members : List (String × JsonValue))
  deriving Inhabited

namespace JsonValue

def escapedChar (c : Char) : List Char :=
  if c = '"' then ['\\', '"']
  else if c = '\\' then ['\\', '\\']
  else if c = '\n' then ['\\', 'n']
  else if c = '\r' then ['\\', 'r']
  else if c = '\t' then ['\\', 't']
  else if c = '\x08' then ['\\', 'b']
  else if c = '\x0c' then ['\\', 'f']
  else if c.toNat < 0x20 then '\\' :: 'u' :: hexadecimal 4 c.toNat
  else [c]

def quotedText (text : String) : String :=
  "\"" ++ String.ofList (text.toList.flatMap escapedChar) ++ "\""

def newline (depth : Nat) : String := "\n" ++ String.ofList (List.replicate (2 * depth) ' ')

/-- Items between brackets, each on a line of its own one level deeper. -/
def bracketed (opening closing : String) (depth : Nat) (items : List String) : String :=
  if items.isEmpty then opening ++ closing
  else
    opening ++ newline (depth + 1) ++ ("," ++ newline (depth + 1)).intercalate items ++ newline depth ++
      closing

mutual

/-- The text of a value whose first line is at the given depth. -/
def renderAt (depth : Nat) : JsonValue → String
  | text t => quotedText t
  | number n => toString n
  | list items => bracketed "[" "]" depth (renderItems (depth + 1) items)
  | object members => bracketed "\x7b" "\x7d" depth (renderMembers (depth + 1) members)

def renderItems (depth : Nat) : List JsonValue → List String
  | [] => []
  | item :: rest => renderAt depth item :: renderItems depth rest

def renderMembers (depth : Nat) : List (String × JsonValue) → List String
  | [] => []
  | (name, value) :: rest =>
    (quotedText name ++ ": " ++ renderAt depth value) :: renderMembers depth rest

end

def render (value : JsonValue) : String := value.renderAt 0

end JsonValue

end StyleAudit.Text
