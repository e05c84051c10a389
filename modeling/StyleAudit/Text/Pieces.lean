/-!
Texts cut into pieces at a separating character.
-/

namespace StyleAudit.Text

/-- The pieces of a text between the occurrences of `separator`; there is always at least one. -/
def pieces (separator : Char) : List Char → List (List Char)
  | [] => [[]]
  | c :: rest =>
    if c = separator then [] :: pieces separator rest
    else
      match pieces separator rest with
      | first :: others => (c :: first) :: others
      | [] => [[c]]

def split (separator : Char) (text : String) : List String :=
  (pieces separator text.toList).map String.ofList

end StyleAudit.Text
