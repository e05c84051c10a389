import StyleAudit.Path

/-!
File systems without links: files with their contents, and directories, each at its place. A
directory need not be listed if something lies in it.
-/

namespace StyleAudit

structure FileData where
  bytes : List UInt8
  readable : Bool
  deriving Inhabited

structure FileSystem where
  files : List (Place × FileData)
  directories : List Place
  cwd : Place
  deriving Inhabited

def Place.below? (base place : Place) : Option (List String) :=
  match base, place with
  | [], rest => some rest
  | _ :: _, [] => none
  | b :: base, l :: place => if b = l then Place.below? base place else none

namespace FileSystem

def file? (fs : FileSystem) (place : Place) : Option FileData :=
  (fs.files.find? fun entry => entry.1 = place).map (·.2)

def isFile (fs : FileSystem) (place : Place) : Bool := (fs.file? place).isSome

/-- Whether a directory is at the place: the top, a listed one, or one with something below it. -/
def isDirectory (fs : FileSystem) (place : Place) : Bool :=
  !fs.isFile place &&
    (place.isEmpty || fs.directories.any (fun d => (Place.below? place d).isSome) ||
      fs.files.any fun entry => (Place.below? place entry.1).isSome)

/-- Goes on by one component, which only a directory allows, to something that is there. -/
def step? (fs : FileSystem) (place : Place) (part : String) : Option Place :=
  if fs.isDirectory place then
    let next := Path.advance place part
    if fs.isFile next || fs.isDirectory next then some next else none
  else none

def locate? (fs : FileSystem) (p : Path) : Option Place :=
  p.parts.foldlM fs.step? (if p.root.isEmpty then fs.cwd else [])

def fileAt? (fs : FileSystem) (p : Path) : Option FileData := (fs.locate? p).bind fs.file?

/-- What can be read at a path; nothing from directories and from files that cannot be opened. -/
def read? (fs : FileSystem) (p : Path) : Option (List UInt8) :=
  (fs.locate? p).bind fun place =>
    (fs.file? place).bind fun file => if file.readable then some file.bytes else none

def filesBelow (fs : FileSystem) (place : Place) : List (List String) :=
  fs.files.filterMap fun entry => Place.below? place entry.1

def write (fs : FileSystem) (place : Place) (bytes : List UInt8) : FileSystem :=
  { fs with
    files := (fs.files.filter fun entry => entry.1 ≠ place) ++ [(place, ⟨bytes, true⟩)] }

end FileSystem

end StyleAudit
