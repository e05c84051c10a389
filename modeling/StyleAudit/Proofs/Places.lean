import StyleAudit.FileSystem
import Mathlib.Data.List.Nodup

/-!
# Where paths lead

A path leads somewhere if every step on its way starts at a directory and the last one ends at
something; `FileSystem.locate?_eq_some_iff` says that looking it up finds exactly the place it resolves
to. In a well-formed file system a path that leads to a file ends in the name of that file, so the
extension of the path is the extension of the file.
-/

namespace StyleAudit

open Text

/-! ## Names and places -/

/-- What a file or directory can be called. -/
structure Path.IsName (name : String) : Prop where
  ne_empty : name ≠ ""
  ne_here : name ≠ "."
  ne_up : name ≠ ".."
  no_slash : '/' ∉ name.toList

instance (name : String) : Decidable (Path.IsName name) :=
  decidable_of_iff (name ≠ "" ∧ name ≠ "." ∧ name ≠ ".." ∧ '/' ∉ name.toList)
    ⟨fun ⟨filled, here, up, slash⟩ => ⟨filled, here, up, slash⟩,
      fun proper => ⟨proper.ne_empty, proper.ne_here, proper.ne_up, proper.no_slash⟩⟩

/-- A place at which a file would be a source: its extension, in lower case, is one of those known. -/
def Place.IsSource (place : Place) : Prop :=
  lowercase (Path.extension ⟨"", place⟩) ∈ Language.extensions.map (·.1)

theorem Place.below?_eq_some_iff {base place : Place} {names : List String} :
    Place.below? base place = some names ↔ place = base ++ names := by
  induction base generalizing place with
  | nil => simp [below?]
  | cons b base ih =>
      cases place with
      | nil => simp [below?]
      | cons first place =>
          by_cases same : b = first
          · simp [below?, same, ih]
          · have apart : first ≠ b := fun equal => same equal.symm
            simp [below?, same, apart]

theorem Place.isSome_below?_iff {base place : Place} :
    (Place.below? base place).isSome = true ↔ base <+: place := by
  simp only [Option.isSome_iff_exists, Place.below?_eq_some_iff]
  exact exists_congr fun names => eq_comm

namespace Path

@[simp] theorem parts_append (p : Path) (names : List String) :
    (p.append names).parts = p.parts ++ names := rfl

@[simp] theorem append_nil (p : Path) : p.append [] = p := by
  simp [append]

/-! ## Resolving -/

/-- Where the components of a path are followed from. -/
def start (cwd : Place) (p : Path) : Place := if p.root.isEmpty then cwd else []

theorem resolve_eq (cwd : Place) (p : Path) : p.resolve cwd = p.parts.foldl advance (p.start cwd) := rfl

theorem foldl_advance {names : List String} (ordinary : ∀ name ∈ names, name ≠ "..") (place : Place) :
    names.foldl advance place = place ++ names := by
  induction names generalizing place with
  | nil => simp
  | cons name rest ih =>
      have first : advance place name = place ++ [name] :=
        if_neg (ordinary name List.mem_cons_self)
      have later := ih (fun other member => ordinary other (List.mem_cons_of_mem _ member))
      rw [List.foldl_cons, first, later, List.append_assoc, List.singleton_append]

theorem resolve_append (cwd : Place) (p : Path) {names : List String}
    (ordinary : ∀ name ∈ names, name ≠ "..") :
    (p.append names).resolve cwd = p.resolve cwd ++ names := by
  have first : (p.append names).start cwd = p.start cwd := rfl
  rw [resolve_eq, resolve_eq, parts_append, List.foldl_append, first, foldl_advance ordinary]

/-! ## Extensions -/

theorem isSome_language?_iff {p : Path} :
    p.language?.isSome = true ↔ lowercase p.extension ∈ Language.extensions.map (·.1) := by
  simp only [language?, Language.ofExtension?, Option.isSome_map, List.find?_isSome,
    decide_eq_true_eq, List.mem_map]

theorem isSome_language?_of_getLast? {p : Path} {place : Place}
    (last : p.parts.getLast? = place.getLast?) : p.language?.isSome = true ↔ place.IsSource := by
  have same : p.extension = Path.extension ⟨"", place⟩ := by
    simp only [extension, name, last]
  rw [isSome_language?_iff, same, Place.IsSource]

theorem isSome_language?_append (p : Path) (place : Place) {names : List String} (some_ : names ≠ []) :
    (p.append names).language?.isSome = true ↔ Place.IsSource (place ++ names) := by
  apply isSome_language?_of_getLast?
  obtain ⟨last, found⟩ := Option.ne_none_iff_exists'.1 (mt List.getLast?_eq_none_iff.1 some_)
  simp [found]

end Path

/-! ## File systems -/

namespace FileSystem

/-- The places at which something is listed. -/
def places (fs : FileSystem) : List Place := fs.files.map (·.1) ++ fs.directories

/-- Files have proper names, nothing lies below a file, and relative paths start at a directory. -/
structure WellFormed (fs : FileSystem) : Prop where
  names : ∀ file ∈ fs.files, ∀ name ∈ file.1, Path.IsName name
  leaves : ∀ file ∈ fs.files, ∀ place ∈ fs.places, file.1 <+: place → file.1 = place
  cwd : fs.isDirectory fs.cwd = true

/-- Something is at the end of a path: every step starts at a directory, and there is a file or
directory where it resolves to. -/
def Exists (fs : FileSystem) (p : Path) : Prop :=
  (∀ i < p.parts.length,
    fs.isDirectory (Path.resolve fs.cwd { p with parts := p.parts.take i }) = true) ∧
  (fs.isFile (p.resolve fs.cwd) = true ∨ fs.isDirectory (p.resolve fs.cwd) = true)

instance (fs : FileSystem) (p : Path) : Decidable (fs.Exists p) :=
  inferInstanceAs (Decidable (_ ∧ _))

variable {fs : FileSystem} {p : Path} {place : Place}

theorem not_isFile_of_isDirectory (directory : fs.isDirectory place = true) :
    fs.isFile place = false := by
  unfold isDirectory at directory
  simpa using (Bool.and_eq_true_iff.1 directory).1

theorem isFile_iff : fs.isFile place = true ↔ ∃ entry ∈ fs.files, entry.1 = place := by
  simp [isFile, file?]

theorem isDirectory_iff :
    fs.isDirectory place = true ↔
      fs.isFile place = false ∧ (place = [] ∨ ∃ other ∈ fs.places, place <+: other) := by
  have listed : (∃ other ∈ fs.places, place <+: other) ↔
      (∃ other ∈ fs.directories, place <+: other) ∨ ∃ entry ∈ fs.files, place <+: entry.1 := by
    simp [places, or_and_right, exists_or, or_comm]
  rw [listed]
  simp [isDirectory, Place.isSome_below?_iff, or_assoc]

theorem mem_filesBelow_iff {names : List String} :
    names ∈ fs.filesBelow place ↔ fs.isFile (place ++ names) = true := by
  simp only [filesBelow, List.mem_filterMap, Place.below?_eq_some_iff, isFile_iff]

/-- Looking up the components of a path one by one. -/
theorem foldlM_step?_eq_some_iff (parts : List String) (first place : Place) :
    parts.foldlM fs.step? first = some place ↔
      place = parts.foldl Path.advance first ∧
      (∀ i < parts.length, fs.isDirectory ((parts.take i).foldl Path.advance first) = true) ∧
      (parts = [] ∨ fs.isFile place = true ∨ fs.isDirectory place = true) := by
  induction parts generalizing first with
  | nil => simp [Eq.comm (a := place)]
  | cons part rest ih =>
      rw [List.foldlM_cons]
      constructor
      · intro found
        obtain ⟨next, stepped, found⟩ := Option.bind_eq_some_iff.1 found
        obtain ⟨resolved, directories, there⟩ := (ih next).1 found
        simp only [step?] at stepped
        split at stepped
        · rename_i here
          split at stepped
          · rename_i reached
            cases stepped
            refine ⟨resolved, fun i bound => ?_, .inr ?_⟩
            · cases i with
              | zero => exact here
              | succ i => exact directories i (Nat.lt_of_succ_lt_succ bound)
            · rcases there with rfl | there
              · rw [resolved]
                exact Bool.or_eq_true_iff.1 reached
              · exact there
          · cases stepped
        · cases stepped
      · rintro ⟨resolved, directories, there⟩
        have here : fs.isDirectory first = true := directories 0 (Nat.succ_pos _)
        have later : ∀ i < rest.length,
            fs.isDirectory ((rest.take i).foldl Path.advance (Path.advance first part)) = true :=
          fun i bound => directories (i + 1) (Nat.succ_lt_succ bound)
        have something : fs.isFile place = true ∨ fs.isDirectory place = true :=
          there.resolve_left (List.cons_ne_nil _ _)
        -- The step ends at the last place, or at a directory from which the next one starts.
        have reached : (fs.isFile (Path.advance first part) ||
            fs.isDirectory (Path.advance first part)) = true := by
          rw [Bool.or_eq_true]
          cases rest with
          | nil =>
              have last : place = Path.advance first part := resolved
              exact last ▸ something
          | cons _ _ => exact .inr (later 0 (Nat.succ_pos _))
        have stepped : fs.step? first part = some (Path.advance first part) := by
          simp only [step?, here, reached, if_true]
        rw [stepped]
        exact (ih _).2 ⟨resolved, later, .inr something⟩

namespace WellFormed

variable (sound : fs.WellFormed)
include sound

theorem isName_of_mem (file : fs.isFile place = true) {name : String} (member : name ∈ place) :
    Path.IsName name := by
  obtain ⟨entry, listed, rfl⟩ := isFile_iff.1 file
  exact sound.names entry listed name member

theorem isDirectory_of_above {other : Place} (listed : other ∈ fs.places) (above : place <+: other)
    (apart : place ≠ other) : fs.isDirectory place = true := by
  refine isDirectory_iff.2 ⟨?_, .inr ⟨other, listed, above⟩⟩
  rw [Bool.eq_false_iff]
  intro file
  obtain ⟨entry, member, rfl⟩ := isFile_iff.1 file
  exact apart (sound.leaves entry member other listed above)

theorem isDirectory_top : fs.isDirectory [] = true := by
  obtain ⟨noFile, home | ⟨other, listed, above⟩⟩ := isDirectory_iff.1 sound.cwd
  · rw [← home]
    exact sound.cwd
  · by_cases nothing : other = []
    · rw [nothing] at above
      rw [← List.prefix_nil.1 above]
      exact sound.cwd
    · exact sound.isDirectory_of_above listed (List.nil_prefix) (Ne.symm nothing)

/-- Everything lies in a directory, the top in itself. -/
theorem isDirectory_parent (there : fs.isFile place = true ∨ fs.isDirectory place = true) :
    fs.isDirectory place.dropLast = true := by
  by_cases top : place = []
  · rw [top]
    exact sound.isDirectory_top
  · have listed : ∃ other ∈ fs.places, place <+: other := by
      rcases there with file | directory
      · obtain ⟨entry, member, rfl⟩ := isFile_iff.1 file
        exact ⟨entry.1, List.mem_append_left _ (List.mem_map_of_mem member), List.prefix_refl _⟩
      · exact (isDirectory_iff.1 directory).2.resolve_left top
    obtain ⟨other, member, above⟩ := listed
    refine sound.isDirectory_of_above member ((List.dropLast_prefix place).trans above) fun same => ?_
    have shorter := above.length_le
    rw [← same, List.length_dropLast] at shorter
    have filled := List.length_pos_iff.2 top
    omega

theorem isDirectory_start (p : Path) : fs.isDirectory (p.start fs.cwd) = true := by
  unfold Path.start
  split
  · exact sound.cwd
  · exact sound.isDirectory_top

theorem locate?_eq_some_iff : fs.locate? p = some place ↔ fs.Exists p ∧ place = p.resolve fs.cwd := by
  have lookup : fs.locate? p = some place ↔ _ :=
    foldlM_step?_eq_some_iff p.parts (p.start fs.cwd) place
  refine lookup.trans ⟨?_, ?_⟩
  · rintro ⟨resolved, directories, there⟩
    have resolved : place = p.resolve fs.cwd := resolved
    refine ⟨⟨directories, ?_⟩, resolved⟩
    rw [← resolved]
    rcases there with none | there
    · have home : place = p.start fs.cwd := by rw [resolved, Path.resolve_eq, none, List.foldl_nil]
      exact .inr (home ▸ sound.isDirectory_start p)
    · exact there
  · rintro ⟨⟨directories, there⟩, rfl⟩
    exact ⟨rfl, directories, .inr there⟩

theorem isNone_locate? : (fs.locate? p).isNone = !decide (fs.Exists p) := by
  by_cases there : fs.Exists p
  · rw [sound.locate?_eq_some_iff.2 ⟨there, rfl⟩]
    simp [there]
  · have absent : fs.locate? p = none :=
      Option.eq_none_iff_forall_ne_some.2 fun place found =>
        there (sound.locate?_eq_some_iff.1 found).1
    simp [absent, there]

/-- A path that leads to a file ends in the name of the file: going up leads to a directory. -/
theorem getLast?_parts (there : fs.Exists p) (file : fs.isFile (p.resolve fs.cwd) = true) :
    p.parts.getLast? = (p.resolve fs.cwd).getLast? := by
  rcases List.eq_nil_or_concat p.parts with none | ⟨before, last, parts⟩
  · have home : p.resolve fs.cwd = p.start fs.cwd := by rw [Path.resolve_eq, none, List.foldl_nil]
    rw [home, not_isFile_of_isDirectory (sound.isDirectory_start p)] at file
    cases file
  · have above : fs.isDirectory (before.foldl Path.advance (p.start fs.cwd)) = true := by
      have directory := there.1 before.length (by simp [parts])
      rw [parts, List.concat_eq_append, List.take_left] at directory
      exact directory
    have resolved : p.resolve fs.cwd =
        Path.advance (before.foldl Path.advance (p.start fs.cwd)) last := by
      rw [Path.resolve_eq, parts, List.concat_eq_append, List.foldl_append]
      rfl
    by_cases up : last = ".."
    · have parent := sound.isDirectory_parent (.inr above)
      rw [resolved, up, Path.advance, if_pos rfl, not_isFile_of_isDirectory parent] at file
      cases file
    · rw [resolved, Path.advance, if_neg up, parts]
      simp

theorem resolve_append {names : List String} (file : fs.isFile (p.resolve fs.cwd ++ names) = true) :
    (p.append names).resolve fs.cwd = p.resolve fs.cwd ++ names := by
  apply Path.resolve_append
  intro name member
  exact (sound.isName_of_mem file (List.mem_append_right _ member)).ne_up

end WellFormed

end FileSystem

end StyleAudit
