import StyleAudit.Proofs.Places
import StyleAudit.Proofs.Plans
import Mathlib.Data.List.Induction

/-!
# What a collection holds

`Reaches` says which files a path contributes, without reference to the search. A collection holds each
reached source once, in the spelling of the first path that reaches it; files come in the order of
these paths, and those of one path in the order of their components. `Gathers` is this description, and
`Gathers.add` shows that one more path keeps it.
-/

namespace StyleAudit.Collection

/-- A path reaches the file it leads to, and every file below the directory it leads to unless a
directory strictly between the two is excluded. -/
inductive Reaches (fs : FileSystem) (excluded : NameSet) (p : Path) : Place → Prop
  | named (there : fs.Exists p) (file : fs.isFile (p.resolve fs.cwd) = true) :
      Reaches fs excluded p (p.resolve fs.cwd)
  | below {between : List String} {name : String} (there : fs.Exists p)
      (directory : fs.isDirectory (p.resolve fs.cwd) = true)
      (file : fs.isFile (p.resolve fs.cwd ++ (between ++ [name])) = true)
      (open_ : ∀ inner ∈ between, inner ∉ excluded) :
      Reaches fs excluded p (p.resolve fs.cwd ++ (between ++ [name]))

section

variable {fs : FileSystem} {excluded : NameSet} {p : Path} {place : Place} {names : List String}

theorem reaches_append_iff :
    Reaches fs excluded p (p.resolve fs.cwd ++ names) ↔
      fs.Exists p ∧ fs.isFile (p.resolve fs.cwd ++ names) = true ∧
      (names = [] ∨ fs.isDirectory (p.resolve fs.cwd) = true) ∧
      ∀ inner ∈ names.dropLast, inner ∉ excluded := by
  constructor
  · intro reaches
    generalize spelled : p.resolve fs.cwd ++ names = place at reaches
    cases reaches with
    | named there file =>
        have none : names = [] := List.append_right_eq_self.1 spelled
        subst none
        exact ⟨there, file, .inl rfl, by simp⟩
    | below there directory file open_ =>
        have names_eq := List.append_cancel_left spelled
        subst names_eq
        exact ⟨there, file, .inr directory, by simpa using open_⟩
  · rintro ⟨there, file, directory, open_⟩
    rcases List.eq_nil_or_concat names with rfl | ⟨between, name, rfl⟩
    · rw [List.append_nil] at file ⊢
      exact .named there file
    · rw [List.concat_eq_append] at *
      exact .below there (directory.resolve_left (by simp)) file (by simpa using open_)

theorem Reaches.exists_names (reaches : Reaches fs excluded p place) :
    ∃ names, place = p.resolve fs.cwd ++ names := by
  cases reaches with
  | named => exact ⟨[], (List.append_nil _).symm⟩
  | below => exact ⟨_, rfl⟩

theorem reaches_iff :
    Reaches fs excluded p place ↔
      ∃ names, Place.below? (p.resolve fs.cwd) place = some names ∧
        fs.Exists p ∧ fs.isFile place = true ∧
        (names = [] ∨ fs.isDirectory (p.resolve fs.cwd) = true) ∧
        ∀ inner ∈ names.dropLast, inner ∉ excluded := by
  simp only [Place.below?_eq_some_iff]
  constructor
  · intro reaches
    obtain ⟨names, rfl⟩ := reaches.exists_names
    exact ⟨names, rfl, reaches_append_iff.1 reaches⟩
  · rintro ⟨names, rfl, rest⟩
    exact reaches_append_iff.2 rest

end

instance (fs : FileSystem) (excluded : NameSet) (p : Path) (place : Place) :
    Decidable (Reaches fs excluded p place) :=
  match found : Place.below? (p.resolve fs.cwd) place with
  | some names => decidable_of_iff (fs.Exists p ∧ fs.isFile place = true ∧
      (names = [] ∨ fs.isDirectory (p.resolve fs.cwd) = true) ∧
      ∀ inner ∈ names.dropLast, inner ∉ excluded) (by simp [reaches_iff, found])
  | none => isFalse (by simp [reaches_iff, found])

/-- Which of the paths is the first to reach a place. -/
def firstReaching (fs : FileSystem) (excluded : NameSet) (paths : List Path) (place : Place) : Nat :=
  paths.findIdx fun p => decide (Reaches fs excluded p place)

/-- What the files of a collection have to do with the paths. -/
structure Gathers (fs : FileSystem) (excluded : NameSet) (paths files : List Path) : Prop where
  distinct : (files.map (Path.resolve fs.cwd)).Nodup
  places : ∀ place, place ∈ files.map (Path.resolve fs.cwd) ↔
    place.IsSource ∧ ∃ p ∈ paths, Reaches fs excluded p place
  spelled : ∀ file ∈ files, ∃ p names,
    paths[firstReaching fs excluded paths (file.resolve fs.cwd)]? = some p ∧
    file = p.append names ∧ file.resolve fs.cwd = p.resolve fs.cwd ++ names
  ordered : files.Pairwise fun a b =>
    firstReaching fs excluded paths (a.resolve fs.cwd) <
        firstReaching fs excluded paths (b.resolve fs.cwd) ∨
      firstReaching fs excluded paths (a.resolve fs.cwd) =
        firstReaching fs excluded paths (b.resolve fs.cwd) ∧ a.parts < b.parts

/-! ## What one path contributes -/

section

variable {fs : FileSystem} {excluded : NameSet} {p q : Path} {names : List String}

theorem isReachable_iff :
    isReachable excluded names = true ↔ ∀ inner ∈ names.dropLast, inner ∉ excluded := by
  simp [isReachable]

theorem mem_searched_iff {place : Place} :
    q ∈ searched fs excluded p place ↔
      ∃ names, q = p.append names ∧ fs.isFile (place ++ names) = true ∧
        q.language?.isSome = true ∧ ∀ inner ∈ names.dropLast, inner ∉ excluded := by
  simp only [searched, List.mem_map, List.mem_mergeSort, List.mem_filter,
    FileSystem.mem_filesBelow_iff, Bool.and_eq_true, isReachable_iff]
  constructor
  · rintro ⟨names, ⟨file, known, open_⟩, rfl⟩
    exact ⟨names, rfl, file, known, open_⟩
  · rintro ⟨names, rfl, file, known, open_⟩
    exact ⟨names, ⟨file, known, open_⟩, rfl⟩

theorem mem_candidates_iff (sound : fs.WellFormed) (there : fs.Exists p) :
    q ∈ candidates fs excluded p (p.resolve fs.cwd) ↔
      ∃ names, q = p.append names ∧ Reaches fs excluded p (p.resolve fs.cwd ++ names) ∧
        Place.IsSource (p.resolve fs.cwd ++ names) := by
  unfold candidates
  simp only [reaches_append_iff]
  by_cases file : fs.isFile (p.resolve fs.cwd) = true
  · have known := Path.isSome_language?_of_getLast? (sound.getLast?_parts there file)
    rw [if_pos file]
    constructor
    · intro member
      split at member
      · rename_i spoken
        obtain rfl := List.mem_singleton.1 member
        refine ⟨[], by simp, ⟨there, by simpa using file, .inl rfl, by simp⟩, ?_⟩
        simpa using known.1 spoken
      · cases member
    · rintro ⟨names, rfl, ⟨-, -, rfl | directory, -⟩, source⟩
      · have spoken := known.2 (by simpa using source)
        simp [spoken]
      · rw [FileSystem.not_isFile_of_isDirectory directory] at file
        cases file
  · have directory := there.2.resolve_left file
    rw [if_neg file, mem_searched_iff]
    refine exists_congr fun names => and_congr_right ?_
    rintro rfl
    have proper : fs.isFile (p.resolve fs.cwd ++ names) = true → names ≠ [] := by
      rintro found rfl
      exact file (by simpa using found)
    constructor
    · rintro ⟨found, spoken, open_⟩
      exact ⟨⟨there, found, .inr directory, open_⟩,
        (p.isSome_language?_append _ (proper found)).1 spoken⟩
    · rintro ⟨⟨-, found, -, open_⟩, source⟩
      exact ⟨found, (p.isSome_language?_append _ (proper found)).2 source, open_⟩

theorem inOrder_iff {a b : List String} : inOrder a b = true ↔ ¬ b < a := by
  rw [inOrder, Bool.not_eq_true', decide_eq_false_iff_not]

theorem pairwise_searched (p : Path) (place : Place) :
    (searched fs excluded p place).Pairwise fun a b => ¬ b.parts < a.parts := by
  have transitive : ∀ a b c : List String,
      inOrder a b = true → inOrder b c = true → inOrder a c = true := by
    simp only [inOrder_iff]
    intro a b c first second
    exact List.not_lt.2 (List.le_trans (List.not_lt.1 first) (List.not_lt.1 second))
  have total : ∀ a b : List String, (inOrder a b || inOrder b a) = true := by
    simp only [Bool.or_eq_true, inOrder_iff]
    intro a b
    exact (List.le_total a b).imp List.not_lt.2 List.not_lt.2
  refine List.pairwise_map.2 ((List.pairwise_mergeSort transitive total _).imp ?_)
  intro a b before
  exact List.not_lt.2 (List.append_left_le (List.not_lt.1 (inOrder_iff.1 before)))

theorem pairwise_candidates (p : Path) (place : Place) :
    (candidates fs excluded p place).Pairwise fun a b => ¬ b.parts < a.parts := by
  unfold candidates
  split
  · split <;> simp
  · exact pairwise_searched p place

/-- The candidates that are taken stand behind the files there are, in their own order; with them every
candidate is accounted for. -/
theorem files_foldl_take (fs : FileSystem) (c : Collection) (paths : List Path) :
    ∃ fresh, (paths.foldl (take fs) c).files = c.files ++ fresh ∧ fresh.Sublist paths ∧
      ((c.files.map (Path.resolve fs.cwd)).Nodup →
        ((c.files ++ fresh).map (Path.resolve fs.cwd)).Nodup) ∧
      ∀ q ∈ paths, q.resolve fs.cwd ∈ (c.files ++ fresh).map (Path.resolve fs.cwd) := by
  induction paths generalizing c with
  | nil => exact ⟨[], by simp, List.Sublist.refl _, by simp, by simp⟩
  | cons p rest ih =>
      obtain ⟨fresh, files, sub, nodup, covered⟩ := ih (take fs c p)
      rw [List.foldl_cons]
      by_cases seen : p.resolve fs.cwd ∈ c.files.map (Path.resolve fs.cwd)
      · have kept : take fs c p = c := if_pos (by simpa using seen)
        rw [kept] at files nodup covered ⊢
        refine ⟨fresh, files, sub.cons p, nodup, ?_⟩
        intro q member
        rcases List.mem_cons.1 member with rfl | later
        · rw [List.map_append]
          exact List.mem_append_left _ seen
        · exact covered q later
      · have taken : (take fs c p).files = c.files ++ [p] := by
          rw [take, if_neg (by simpa using seen)]
        rw [taken, List.append_assoc, List.singleton_append] at files nodup covered
        refine ⟨p :: fresh, files, sub.cons_cons p, ?_, ?_⟩
        · intro distinct
          apply nodup
          rw [List.map_append, List.map_singleton]
          exact List.nodup_append.2 ⟨distinct, by simp, by
            rintro place member _ rest rfl
            exact seen (List.mem_singleton.1 rest ▸ member)⟩
        · intro q member
          rcases List.mem_cons.1 member with rfl | later
          · simp
          · exact covered q later

end

/-! ## One path after the other -/

section

variable {fs : FileSystem} {excluded : NameSet} {paths files : List Path} {p : Path} {place : Place}

theorem firstReaching_of_reached (reached : ∃ p ∈ paths, Reaches fs excluded p place) :
    firstReaching fs excluded paths place < paths.length ∧
      firstReaching fs excluded (paths ++ [p]) place = firstReaching fs excluded paths place := by
  obtain ⟨first, member, reaches⟩ := reached
  have bound : firstReaching fs excluded paths place < paths.length :=
    List.findIdx_lt_length_of_exists ⟨first, member, decide_eq_true reaches⟩
  refine ⟨bound, ?_⟩
  unfold firstReaching at bound ⊢
  rw [List.findIdx_append, if_pos bound]

theorem firstReaching_of_fresh (fresh : ¬ ∃ p ∈ paths, Reaches fs excluded p place)
    (reaches : Reaches fs excluded p place) :
    firstReaching fs excluded (paths ++ [p]) place = paths.length := by
  have absent : firstReaching fs excluded paths place = paths.length :=
    List.findIdx_eq_length.2 fun q member => decide_eq_false fun reached => fresh ⟨q, member, reached⟩
  unfold firstReaching at absent ⊢
  rw [List.findIdx_append, absent, if_neg (Nat.lt_irrefl _), List.findIdx_cons]
  simp [reaches]

namespace Gathers

theorem nil : Gathers fs excluded [] [] where
  distinct := by simp
  places := by simp
  spelled := by simp
  ordered := by simp

theorem reached (gathers : Gathers fs excluded paths files) {file : Path} (member : file ∈ files) :
    ∃ p ∈ paths, Reaches fs excluded p (file.resolve fs.cwd) :=
  ((gathers.places _).1 (List.mem_map_of_mem member)).2

/-- The files that one more path adds: reached by it and by none before, spelled from it, and in the
order of their components. -/
structure Adds (fs : FileSystem) (excluded : NameSet) (files : List Path) (p : Path)
    (fresh : List Path) : Prop where
  distinct : ((files ++ fresh).map (Path.resolve fs.cwd)).Nodup
  reached : ∀ file ∈ fresh, Reaches fs excluded p (file.resolve fs.cwd) ∧
    Place.IsSource (file.resolve fs.cwd)
  complete : ∀ place, Reaches fs excluded p place → place.IsSource →
    place ∈ (files ++ fresh).map (Path.resolve fs.cwd)
  spelled : ∀ file ∈ fresh, ∃ names,
    file = p.append names ∧ file.resolve fs.cwd = p.resolve fs.cwd ++ names
  ordered : fresh.Pairwise fun a b => a.parts < b.parts

theorem append (gathers : Gathers fs excluded paths files) {fresh : List Path}
    (adds : Adds fs excluded files p fresh) :
    Gathers fs excluded (paths ++ [p]) (files ++ fresh) := by
  have known : ∀ file ∈ files,
      firstReaching fs excluded paths (file.resolve fs.cwd) < paths.length ∧
      firstReaching fs excluded (paths ++ [p]) (file.resolve fs.cwd) =
        firstReaching fs excluded paths (file.resolve fs.cwd) :=
    fun file member => firstReaching_of_reached (gathers.reached member)
  have unknown : ∀ file ∈ fresh,
      firstReaching fs excluded (paths ++ [p]) (file.resolve fs.cwd) = paths.length := by
    intro file member
    obtain ⟨reaches, source⟩ := adds.reached file member
    refine firstReaching_of_fresh (fun before => ?_) reaches
    have old := (gathers.places _).2 ⟨source, before⟩
    have distinct := adds.distinct
    rw [List.map_append] at distinct
    exact (List.nodup_append.1 distinct).2.2 _ old _ (List.mem_map_of_mem member) rfl
  constructor
  · exact adds.distinct
  · intro place
    constructor
    · intro member
      rw [List.map_append, List.mem_append, gathers.places] at member
      rcases member with ⟨source, q, listed, reaches⟩ | new
      · exact ⟨source, q, List.mem_append_left _ listed, reaches⟩
      · obtain ⟨file, added, rfl⟩ := List.mem_map.1 new
        obtain ⟨reaches, source⟩ := adds.reached file added
        exact ⟨source, p, by simp, reaches⟩
    · rintro ⟨source, q, listed, reaches⟩
      rcases List.mem_append.1 listed with before | last
      · rw [List.map_append]
        exact List.mem_append_left _ ((gathers.places place).2 ⟨source, q, before, reaches⟩)
      · obtain rfl := List.mem_singleton.1 last
        exact adds.complete place reaches source
  · intro file member
    rcases List.mem_append.1 member with old | new
    · obtain ⟨first, names, found, spelled⟩ := gathers.spelled file old
      obtain ⟨bound, same⟩ := known file old
      exact ⟨first, names, by rw [same, List.getElem?_append_left bound, found], spelled⟩
    · obtain ⟨names, spelled⟩ := adds.spelled file new
      exact ⟨p, names, by simp [unknown file new], spelled⟩
  · refine List.pairwise_append.2 ⟨?_, ?_, ?_⟩
    · refine gathers.ordered.imp_of_mem ?_
      intro a b first second before
      rw [(known a first).2, (known b second).2]
      exact before
    · refine adds.ordered.imp_of_mem ?_
      intro a b first second before
      exact .inr ⟨(unknown a first).trans (unknown b second).symm, before⟩
    · intro a old b new
      left
      rw [(known a old).2, unknown b new]
      exact (known a old).1

theorem adds_of_missing (gathers : Gathers fs excluded paths files) (missing : ¬ fs.Exists p) :
    Adds fs excluded files p [] where
  distinct := by simpa using gathers.distinct
  reached := by simp
  complete place reaches := by cases reaches <;> contradiction
  spelled := by simp
  ordered := by simp

theorem adds_of_exists (sound : fs.WellFormed)
    (there : fs.Exists p) {fresh : List Path}
    (sub : fresh.Sublist (candidates fs excluded p (p.resolve fs.cwd)))
    (distinct : ((files ++ fresh).map (Path.resolve fs.cwd)).Nodup)
    (covered : ∀ q ∈ candidates fs excluded p (p.resolve fs.cwd),
      q.resolve fs.cwd ∈ (files ++ fresh).map (Path.resolve fs.cwd)) :
    Adds fs excluded files p fresh := by
  have candidate : ∀ file ∈ fresh, ∃ names, file = p.append names ∧
      file.resolve fs.cwd = p.resolve fs.cwd ++ names ∧
      Reaches fs excluded p (p.resolve fs.cwd ++ names) ∧
      Place.IsSource (p.resolve fs.cwd ++ names) := by
    intro file member
    obtain ⟨names, rfl, reaches, source⟩ := (mem_candidates_iff sound there).1 (sub.subset member)
    exact ⟨names, rfl, sound.resolve_append (reaches_append_iff.1 reaches).2.1, reaches, source⟩
  constructor
  · exact distinct
  · intro file member
    obtain ⟨names, -, resolved, reaches, source⟩ := candidate file member
    rw [resolved]
    exact ⟨reaches, source⟩
  · intro place reaches source
    obtain ⟨names, rfl⟩ := reaches.exists_names
    rw [← sound.resolve_append (reaches_append_iff.1 reaches).2.1]
    exact covered _ ((mem_candidates_iff sound there).2 ⟨names, rfl, reaches, source⟩)
  · intro file member
    obtain ⟨names, spelled, resolved, -⟩ := candidate file member
    exact ⟨names, spelled, resolved⟩
  · -- Two candidates of one path with the same components would be the same file.
    have apart : fresh.Pairwise fun a b => a.resolve fs.cwd ≠ b.resolve fs.cwd := by
      rw [List.map_append] at distinct
      exact List.pairwise_map.1 (List.nodup_append.1 distinct).2.1
    have sorted := ((pairwise_candidates p _).sublist sub).and apart
    refine sorted.imp_of_mem ?_
    rintro a b first second ⟨before, elsewhere⟩
    obtain ⟨names, rfl, -⟩ := candidate a first
    obtain ⟨others, rfl, -⟩ := candidate b second
    have ascending := List.le_iff_lt_or_eq.1 (List.not_lt.1 before)
    refine ascending.resolve_right fun same => elsewhere ?_
    rw [List.append_cancel_left same]

theorem add (sound : fs.WellFormed) {c : Collection} (gathers : Gathers fs excluded paths c.files)
    (p : Path) : Gathers fs excluded (paths ++ [p]) (Collection.add fs excluded c p).files := by
  unfold Collection.add
  cases located : fs.locate? p with
  | none =>
      have missing : ¬ fs.Exists p := by
        intro there
        rw [sound.locate?_eq_some_iff.2 ⟨there, rfl⟩] at located
        cases located
      simpa using gathers.append (gathers.adds_of_missing missing)
  | some place =>
      obtain ⟨there, rfl⟩ := sound.locate?_eq_some_iff.1 located
      obtain ⟨fresh, taken, sub, nodup, covered⟩ :=
        files_foldl_take fs c (candidates fs excluded p (p.resolve fs.cwd))
      show Gathers fs excluded (paths ++ [p]) (List.foldl (take fs) c _).files
      rw [taken]
      exact gathers.append
        (adds_of_exists sound there sub (nodup gathers.distinct) covered)

theorem ofPaths (sound : fs.WellFormed) (paths : List Path) :
    Gathers fs excluded paths (Collection.ofPaths fs excluded paths).files := by
  induction paths using List.reverseRecOn with
  | nil => exact .nil
  | append_singleton paths p ih =>
      rw [Collection.ofPaths, List.foldl_concat]
      exact ih.add sound p

end Gathers

end

theorem sources_collected_once_in_order (fs : FileSystem) (sound : fs.WellFormed)
    (excluded : NameSet) (paths : List Path) :
    (ofPaths fs excluded paths).missing = paths.filter (fun p => !decide (fs.Exists p)) ∧
      Gathers fs excluded paths (ofPaths fs excluded paths).files := by
  refine ⟨?_, .ofPaths sound paths⟩
  rw [missing_ofPaths]
  congr
  funext p
  exact sound.isNone_locate?

namespace Sample

/-- A directory with a source of its own and one in an excluded directory. -/
def nested : FileSystem where
  files := [(["app", "src", "vendor", "b.TSX"], ⟨[], true⟩), (["app", "src", "a.js"], ⟨[], true⟩)]
  directories := []
  cwd := ["app"]

def nestedPaths : List Path :=
  ["./src", "gone.js", "/app/src/vendor/b.TSX", "../app/src/a.js"].map Path.ofString

end Sample

open StyleAudit.Collection.Sample in
theorem sources_collected_once_in_order_sample :
    nested.WellFormed ∧
    (ofPaths nested (.ofList ["vendor"]) nestedPaths).missing = [⟨"", ["gone.js"]⟩] ∧
    (ofPaths nested (.ofList ["vendor"]) nestedPaths).files =
      [⟨"", ["src", "a.js"]⟩, ⟨"/", ["app", "src", "vendor", "b.TSX"]⟩] ∧
    Gathers nested (.ofList ["vendor"]) nestedPaths
      (ofPaths nested (.ofList ["vendor"]) nestedPaths).files := by
  have sound : nested.WellFormed := ⟨by decide +kernel, by decide +kernel, by decide +kernel⟩
  obtain ⟨missing, gathers⟩ :=
    sources_collected_once_in_order nested sound (.ofList ["vendor"]) nestedPaths
  refine ⟨sound, missing.trans ?_, ?_, gathers⟩
  · decide +kernel
  · have found : (nested.filesBelow ["app", "src"]).filter (fun names =>
        (Path.append ⟨"", ["src"]⟩ names).language?.isSome &&
          isReachable (.ofList ["vendor"]) names) = [["a.js"]] := by decide +kernel
    have located : nested.locate? ⟨"", ["src"]⟩ = some ["app", "src"] := by decide +kernel
    have directory : nested.isFile ["app", "src"] = false := by decide +kernel
    have first : add nested (.ofList ["vendor"]) empty ⟨"", ["src"]⟩ =
        ⟨[⟨"", ["src", "a.js"]⟩], []⟩ := by
      simp only [add, located, candidates, directory, searched, found, List.mergeSort_singleton]
      rfl
    have paths : nestedPaths = ⟨"", ["src"]⟩ :: nestedPaths.tail := by decide +kernel
    rw [ofPaths, paths, List.foldl_cons, first]
    decide +kernel

end StyleAudit.Collection
