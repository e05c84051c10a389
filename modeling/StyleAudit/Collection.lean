import StyleAudit.FileSystem
import StyleAudit.Names

/-!
Which files a run looks at.

A file that is named is taken whatever directory it lies in. A directory is searched through, in the
order of the components of the paths in it, without entering excluded directories. A file that two
paths lead to is taken once, in the spelling of the first.
-/

namespace StyleAudit

structure Collection where
  files : List Path
  missing : List Path
  deriving Inhabited

namespace Collection

def empty : Collection := ⟨[], []⟩

def inOrder (a b : List String) : Bool := !decide (b < a)

/-- Whether no directory on the way to a file is excluded; the last name is the file's own. -/
def isReachable (excluded : NameSet) (names : List String) : Bool :=
  names.dropLast.all fun name => !decide (name ∈ excluded)

def searched (fs : FileSystem) (excluded : NameSet) (p : Path) (place : Place) : List Path :=
  let found := (fs.filesBelow place).filter fun names =>
    (p.append names).language?.isSome && isReachable excluded names
  (found.mergeSort inOrder).map p.append

def candidates (fs : FileSystem) (excluded : NameSet) (p : Path) (place : Place) : List Path :=
  if fs.isFile place then (if p.language?.isSome then [p] else [])
  else searched fs excluded p place

/-- Adds a file unless a path to the same place has been taken. -/
def take (fs : FileSystem) (c : Collection) (p : Path) : Collection :=
  if c.files.any fun q => q.resolve fs.cwd = p.resolve fs.cwd then c
  else { c with files := c.files ++ [p] }

def add (fs : FileSystem) (excluded : NameSet) (c : Collection) (p : Path) : Collection :=
  match fs.locate? p with
  | some place => (candidates fs excluded p place).foldl (take fs) c
  | none => { c with missing := c.missing ++ [p] }

def ofPaths (fs : FileSystem) (excluded : NameSet) (paths : List Path) : Collection :=
  paths.foldl (add fs excluded) empty

end Collection

/-- How a report names a file: by the names that lead to it from the working directory or, if it lies
elsewhere, as it was written. -/
def displayPath (fs : FileSystem) (p : Path) : String :=
  match Place.below? fs.cwd (p.resolve fs.cwd) with
  | some names => (⟨"", names⟩ : Path).toString
  | none => p.toString

end StyleAudit
