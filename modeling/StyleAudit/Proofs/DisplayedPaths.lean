import StyleAudit.Proofs.Collections
import StyleAudit.Proofs.Texts

/-!
# How files are named in reports

A file below the working directory is shown by the names that lead to it, any other as it was written.
Read as a path again, either leads back to the file (`resolve_ofString_displayPath`), so no two files
of a collection are shown alike.
-/

namespace StyleAudit

open Text

namespace Path

/-- A path as texts spell it. -/
structure IsWritten (p : Path) : Prop where
  root : p.root = "" ∨ p.root = "/" ∨ p.root = "//"
  parts : ∀ part ∈ p.parts, part ≠ "" ∧ part ≠ "." ∧ '/' ∉ part.toList

theorem isWritten_ofString (text : String) : (ofString text).IsWritten where
  root := by
    show rootOf text.toList = "" ∨ rootOf text.toList = "/" ∨ rootOf text.toList = "//"
    unfold rootOf
    split <;> simp
  parts part member := by
    obtain ⟨listed, kept⟩ := List.mem_filter.1 member
    obtain ⟨piece, cut, rfl⟩ := List.mem_map.1 listed
    have proper : String.ofList piece ≠ "" ∧ String.ofList piece ≠ "." := by simpa using kept
    refine ⟨proper.1, proper.2, ?_⟩
    rw [String.toList_ofList]
    exact not_mem_of_mem_pieces cut

theorem IsWritten.append {p : Path} (written : p.IsWritten) {names : List String}
    (proper : ∀ name ∈ names, IsName name) : (p.append names).IsWritten where
  root := written.root
  parts part member := by
    rcases List.mem_append.1 member with old | new
    · exact written.parts part old
    · have name := proper part new
      exact ⟨name.ne_empty, name.ne_here, name.no_slash⟩

/-! ## Reading a written path -/

/-- The characters of the components with slashes between them. -/
def joined (parts : List String) : List Char := ['/'].intercalate (parts.map String.toList)

theorem toList_toString {p : Path} (some_ : p.root ≠ "" ∨ p.parts ≠ []) :
    p.toString.toList = p.root.toList ++ joined p.parts := by
  have notHere : (p.root.isEmpty && p.parts.isEmpty) = false := by
    rw [Bool.and_eq_false_iff]
    simpa using some_
  rw [toString, notHere, if_neg Bool.false_ne_true, String.toList_append, String.toList_intercalate]
  rfl

section

variable {parts : List String}
  (written : ∀ part ∈ parts, part ≠ "" ∧ part ≠ "." ∧ '/' ∉ part.toList)
include written

theorem head?_joined : (joined parts).head? ≠ some '/' := by
  cases parts with
  | nil => simp [joined]
  | cons part rest =>
      obtain ⟨filled, -, slash⟩ := written part List.mem_cons_self
      have filled : part.toList ≠ [] := by simpa using filled
      obtain ⟨first, others, spelled⟩ := List.exists_cons_of_ne_nil filled
      have apart : first ≠ '/' := by
        rintro rfl
        exact slash (spelled ▸ List.mem_cons_self)
      cases rest with
      | nil => simpa [joined, spelled] using apart
      | cons next rest => simpa [joined, spelled] using apart

theorem filter_pieces_joined :
    ((pieces '/' (joined parts)).map String.ofList).filter
      (fun part => !part.isEmpty && part != ".") = parts := by
  by_cases none : parts = []
  · subst none
    decide
  · have cut : pieces '/' (joined parts) = parts.map String.toList := by
      rw [pieces_eq_splitOn]
      apply List.splitOn_intercalate
      · simpa using fun part member => (written part member).2.2
      · simpa using none
    have read : (parts.map String.toList).map String.ofList = parts := by simp
    rw [cut, read, List.filter_eq_self]
    intro part member
    simpa using ⟨(written part member).1, (written part member).2.1⟩

theorem filter_split_rooted {root : String} (known : root = "" ∨ root = "/" ∨ root = "//") :
    ((pieces '/' (root.toList ++ joined parts)).map String.ofList).filter
      (fun part => !part.isEmpty && part != ".") = parts := by
  have rest := filter_pieces_joined written
  rcases known with rfl | rfl | rfl <;> simpa [pieces] using rest

theorem rootOf_rooted {root : String} (known : root = "" ∨ root = "/" ∨ root = "//") :
    rootOf (root.toList ++ joined parts) = root := by
  have start := head?_joined written
  cases chars : joined parts with
  | nil => rcases known with rfl | rfl | rfl <;> rfl
  | cons first others =>
      have apart : first ≠ '/' := by simpa [chars] using start
      rcases known with rfl | rfl | rfl <;> simp [rootOf, apart]

end

theorem ofString_toString {p : Path} (written : p.IsWritten) : ofString p.toString = p := by
  by_cases here : p = ⟨"", []⟩
  · subst here
    decide
  · have some_ : p.root ≠ "" ∨ p.parts ≠ [] := by
      rw [← not_and_or]
      rintro ⟨noRoot, noParts⟩
      apply here
      cases p
      simp_all
    unfold ofString split
    rw [toList_toString some_, rootOf_rooted written.parts written.root,
      filter_split_rooted written.parts written.root]

end Path

/-! ## What is shown -/

/-- The path that is shown for a file. -/
def shownPath (fs : FileSystem) (p : Path) : Path :=
  match Place.below? fs.cwd (p.resolve fs.cwd) with
  | some names => ⟨"", names⟩
  | none => p

theorem displayPath_eq (fs : FileSystem) (p : Path) : displayPath fs p = (shownPath fs p).toString := by
  unfold displayPath shownPath
  cases Place.below? fs.cwd (p.resolve fs.cwd) <;> rfl

theorem displayPath_of_below {fs : FileSystem} {p : Path} {names : List String} (some_ : names ≠ [])
    (inside : p.resolve fs.cwd = fs.cwd ++ names) : displayPath fs p = "/".intercalate names := by
  rw [displayPath, Place.below?_eq_some_iff.2 inside]
  simp [Path.toString, some_]

section

variable {fs : FileSystem} (sound : fs.WellFormed) {p : Path}
include sound

theorem isWritten_shownPath (file : fs.isFile (p.resolve fs.cwd) = true) (written : p.IsWritten) :
    (shownPath fs p).IsWritten := by
  unfold shownPath
  split
  · rename_i names inside
    have place := Place.below?_eq_some_iff.1 inside
    rw [place] at file
    exact Path.IsWritten.append (p := ⟨"", []⟩) ⟨.inl rfl, by simp⟩ fun name member =>
      sound.isName_of_mem file (List.mem_append_right _ member)
  · exact written

theorem resolve_shownPath (file : fs.isFile (p.resolve fs.cwd) = true) :
    (shownPath fs p).resolve fs.cwd = p.resolve fs.cwd := by
  unfold shownPath
  split
  · rename_i names inside
    have place := Place.below?_eq_some_iff.1 inside
    rw [place] at file ⊢
    exact sound.resolve_append (p := ⟨"", []⟩) file
  · rfl

/-- What is shown for a file leads to the file when it is read as a path. -/
theorem resolve_ofString_displayPath (file : fs.isFile (p.resolve fs.cwd) = true)
    (written : p.IsWritten) :
    (Path.ofString (displayPath fs p)).resolve fs.cwd = p.resolve fs.cwd := by
  rw [displayPath_eq, Path.ofString_toString (isWritten_shownPath sound file written),
    resolve_shownPath sound file]

end

namespace Collection

theorem Reaches.isFile {fs : FileSystem} {excluded : NameSet} {p : Path} {place : Place}
    (reaches : Reaches fs excluded p place) : fs.isFile place = true := by
  cases reaches <;> assumption

theorem isWritten_of_mem {fs : FileSystem} (sound : fs.WellFormed) {excluded : NameSet}
    {paths files : List Path} (written : ∀ p ∈ paths, p.IsWritten)
    (gathers : Gathers fs excluded paths files) {file : Path} (member : file ∈ files) :
    fs.isFile (file.resolve fs.cwd) = true ∧ file.IsWritten := by
  obtain ⟨p, -, reaches⟩ := gathers.reached member
  obtain ⟨first, names, listed, rfl, resolved⟩ := gathers.spelled file member
  refine ⟨reaches.isFile, (written first (List.mem_of_getElem? listed)).append fun name named => ?_⟩
  have there := reaches.isFile
  rw [resolved] at there
  exact sound.isName_of_mem there (List.mem_append_right _ named)

end Collection

theorem displayed_paths_unambiguous (fs : FileSystem) (sound : fs.WellFormed) (excluded : NameSet)
    (texts : List String) :
    let files := (Collection.ofPaths fs excluded (texts.map Path.ofString)).files
    (files.map (displayPath fs)).Nodup ∧
    (∀ file ∈ files,
      (Path.ofString (displayPath fs file)).resolve fs.cwd = file.resolve fs.cwd) ∧
    ∀ (p : Path) (names : List String), names ≠ [] → p.resolve fs.cwd = fs.cwd ++ names →
      displayPath fs p = "/".intercalate names := by
  intro files
  have gathers : Collection.Gathers fs excluded (texts.map Path.ofString) files := .ofPaths sound _
  have written : ∀ p ∈ texts.map Path.ofString, p.IsWritten := by
    intro p member
    obtain ⟨text, -, rfl⟩ := List.mem_map.1 member
    exact Path.isWritten_ofString text
  have leads : ∀ file ∈ files,
      (Path.ofString (displayPath fs file)).resolve fs.cwd = file.resolve fs.cwd := by
    intro file member
    obtain ⟨there, spelled⟩ := Collection.isWritten_of_mem sound written gathers member
    exact resolve_ofString_displayPath sound there spelled
  refine ⟨?_, leads, fun p names some_ inside => displayPath_of_below some_ inside⟩
  refine List.Nodup.map_on ?_ (List.Nodup.of_map _ gathers.distinct)
  intro a first b second same
  apply List.inj_on_of_nodup_map gathers.distinct first second
  rw [← leads a first, ← leads b second, same]

namespace Sample

/-- Sources inside and outside of the working directory. -/
def neighbours : FileSystem where
  files := [(["home", "app", "src", "a.js"], ⟨[], true⟩), (["home", "src", "a.js"], ⟨[], true⟩)]
  directories := []
  cwd := ["home", "app"]

def neighbourTexts : List String := ["../src/a.js", "/home/app/src/a.js", "../app//src/./a.js"]

end Sample

open Sample in
theorem displayed_paths_unambiguous_sample :
    let files := (Collection.ofPaths neighbours .empty (neighbourTexts.map Path.ofString)).files
    neighbours.WellFormed ∧ files.map (displayPath neighbours) = ["../src/a.js", "src/a.js"] ∧
    (files.map (displayPath neighbours)).Nodup ∧
    (∀ file ∈ files, (Path.ofString (displayPath neighbours file)).resolve neighbours.cwd =
      file.resolve neighbours.cwd) ∧
    displayPath neighbours (.ofString "../app/src/a.js") = "src/a.js" := by
  have sound : neighbours.WellFormed := ⟨by decide +kernel, by decide +kernel, by decide +kernel⟩
  obtain ⟨distinct, leads, inside⟩ :=
    displayed_paths_unambiguous neighbours sound .empty neighbourTexts
  refine ⟨sound, by decide +kernel, distinct, leads, ?_⟩
  rw [inside _ ["src", "a.js"] (by decide) (by decide +kernel)]
  decide +kernel

end StyleAudit
