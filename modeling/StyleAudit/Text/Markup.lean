/-!
Texts with style tags in brackets, such as `[bold red]Error:[/bold red]`.

A tag opens with a bracket and a small letter, a hash, a slash or an at sign, and ends at the next
closing bracket unless another bracket opens before. A backslash before a tag makes it plain text, and a
backslash before that is written twice.
-/

namespace StyleAudit.Text

def isTagStart (c : Char) : Bool :=
  ('a' ≤ c && c ≤ 'z') || c == '#' || c == '/' || c == '@'

def closesFirst (text : List Char) : Bool :=
  (text.find? fun c => c == '[' || c == ']') == some ']'

def startsTag : List Char → Bool
  | '[' :: c :: rest => isTagStart c && closesFirst rest
  | _ => false

/-- Makes tags plain text; `pending` backslashes stand right before. -/
def escapeTags (pending : Nat) : List Char → List Char
  | [] => List.replicate pending '\\'
  | c :: rest =>
    if c = '\\' then escapeTags (pending + 1) rest
    else
      let backslashes := if startsTag (c :: rest) then 2 * pending + 1 else pending
      List.replicate backslashes '\\' ++ c :: escapeTags 0 rest

/-- Doubles a single backslash at the end, so that it does not touch a tag that follows. -/
def guardEnd (text : List Char) : List Char :=
  match text.reverse with
  | '\\' :: '\\' :: _ => text
  | '\\' :: _ => text ++ ['\\']
  | _ => text

def escapeMarkup (text : String) : String :=
  String.ofList (guardEnd (escapeTags 0 text.toList))

/-- The characters that a text with tags shows, without the tags; `pending` backslashes stand right
before, and `inTag` says whether a tag is being passed over. -/
def shownCharacters (pending : Nat) (inTag : Bool) : List Char → List Char
  | [] => List.replicate pending '\\'
  | c :: rest =>
    if inTag then shownCharacters 0 (c != ']') rest
    else if c = '\\' then shownCharacters (pending + 1) false rest
    else if startsTag (c :: rest) then
      if pending % 2 = 1 then
        List.replicate (pending / 2) '\\' ++ c :: shownCharacters 0 false rest
      else List.replicate (pending / 2) '\\' ++ shownCharacters 0 true rest
    else List.replicate pending '\\' ++ c :: shownCharacters 0 false rest

def shownText (markup : String) : String :=
  String.ofList (shownCharacters 0 false markup.toList)

end StyleAudit.Text
