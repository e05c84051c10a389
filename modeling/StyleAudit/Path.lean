import StyleAudit.Language
import StyleAudit.Text.Lowercase
import StyleAudit.Text.Pieces

/-!
Paths as they are written, and places, which are where they lead.

Writing a path drops empty components and single dots, but keeps double dots. A place is the list of
names from the top of the file system and has no dots in it.
-/

namespace StyleAudit

open Text

/-- A written path: what it starts from (nothing, one slash, or exactly two) and its components. -/
structure Path where
  root : String
  parts : List String
  deriving Repr, DecidableEq, Inhabited

abbrev Place := List String

namespace Path

def rootOf : List Char → String
  | '/' :: '/' :: '/' :: _ => "/"
  | '/' :: '/' :: _ => "//"
  | '/' :: _ => "/"
  | _ => ""

def ofString (text : String) : Path :=
  ⟨rootOf text.toList, (split '/' text).filter fun part => !part.isEmpty && part != "."⟩

def toString (p : Path) : String :=
  if p.root.isEmpty && p.parts.isEmpty then "." else p.root ++ "/".intercalate p.parts

def append (p : Path) (names : List String) : Path := { p with parts := p.parts ++ names }

def name (p : Path) : String := p.parts.getLast?.getD ""

/-- The end of a name from its last dot on; a dot that is the first or the last character starts no
ending. -/
def extensionOf (name : List Char) : List Char :=
  let reversed := name.reverse
  let ending := reversed.takeWhile (· != '.')
  if ending.isEmpty || reversed.length ≤ ending.length + 1 then [] else '.' :: ending.reverse

def extension (p : Path) : String := String.ofList (extensionOf p.name.toList)

def language? (p : Path) : Option Language := Language.ofExtension? (lowercase p.extension)

def advance (from_ : Place) (part : String) : Place :=
  if part = ".." then from_.dropLast else from_ ++ [part]

/-- Where a path leads from the directory `cwd`, whether or not anything is there. -/
def resolve (cwd : Place) (p : Path) : Place :=
  p.parts.foldl advance (if p.root.isEmpty then cwd else [])

end Path

end StyleAudit
