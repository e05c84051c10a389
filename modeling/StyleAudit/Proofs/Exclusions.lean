import StyleAudit.Proofs.Collections
import StyleAudit.Proofs.Texts

/-!
# Excluded directories

The names in two lists that are joined by a comma are those of the first and those of the second. More
excluded names never add a file to a collection, whatever the paths and however they overlap, and a
source that is named itself is collected whatever is excluded.
-/

namespace StyleAudit

open Text

/-! ## Lists of names -/

theorem listedNames_join (first second : String) :
    listedNames (first ++ "," ++ second) = listedNames first ++ listedNames second := by
  have cut : pieces ',' (first ++ "," ++ second).toList =
      pieces ',' first.toList ++ pieces ',' second.toList := by
    have spelled : (first ++ "," ++ second).toList = first.toList ++ ',' :: second.toList := by simp
    simp only [pieces_eq_splitOn, spelled, List.splitOn_append_cons_self]
  simp only [listedNames, split, cut, List.map_append, List.filter_append]

/-- A name as it stands in a list: not empty, without commas, and without blanks around it. -/
structure IsListed (name : String) : Prop where
  ne_empty : name ≠ ""
  no_comma : ',' ∉ name.toList
  no_blank_before : ∀ c, name.toList.head? = some c → isBlank c = false
  no_blank_after : ∀ c, name.toList.getLast? = some c → isBlank c = false

theorem isListed_of_mem {text name : String} (member : name ∈ listedNames text) : IsListed name := by
  obtain ⟨stripped, filled⟩ := List.mem_filter.1 member
  obtain ⟨piece, listed, rfl⟩ := List.mem_map.1 stripped
  obtain ⟨chars, cut, rfl⟩ := List.mem_map.1 listed
  constructor
  · simpa using filled
  · rw [toList_strip, String.toList_ofList]
    exact fun comma => not_mem_of_mem_pieces cut (core_subset chars comma)
  · rw [toList_strip]
    exact fun c => isBlank_head_core
  · rw [toList_strip]
    exact fun c => isBlank_last_core

/-- The directories that are excluded when the setting is the given text. -/
def Environment.exclusionsUnder (env : Environment) (setting : String) : NameSet :=
  exclusions (env.put exclusionVariable setting)

theorem mem_exclusionsUnder_iff {env : Environment} {setting name : String} :
    name ∈ env.exclusionsUnder setting ↔ name ∈ builtinExclusions ∨ name ∈ listedNames setting := by
  simp [Environment.exclusionsUnder, Environment.exclusions, Registry.get?_put]

/-! ## Collections under more exclusions -/

namespace Collection

variable {fs : FileSystem} {excluded more : NameSet}

theorem mem_places_add {c : Collection} {p : Path} {place : Place} :
    place ∈ (add fs excluded c p).files.map (Path.resolve fs.cwd) ↔
      place ∈ c.files.map (Path.resolve fs.cwd) ∨
      ∃ found, fs.locate? p = some found ∧
        place ∈ (candidates fs excluded p found).map (Path.resolve fs.cwd) := by
  unfold add
  cases located : fs.locate? p with
  | none => simp
  | some found =>
      obtain ⟨fresh, taken, sub, -, covered⟩ := files_foldl_take fs c (candidates fs excluded p found)
      simp only [taken, Option.some.injEq, exists_eq_left']
      constructor
      · intro member
        rw [List.map_append, List.mem_append] at member
        exact member.imp_right fun new => (sub.map _).subset new
      · rintro (old | candidate)
        · rw [List.map_append]
          exact List.mem_append_left _ old
        · obtain ⟨q, listed, rfl⟩ := List.mem_map.1 candidate
          exact covered q listed

/-- The places of a collection are those of the candidates of all paths, in any file system. -/
theorem mem_places_ofPaths {paths : List Path} {place : Place} :
    place ∈ (ofPaths fs excluded paths).files.map (Path.resolve fs.cwd) ↔
      ∃ p ∈ paths, ∃ found, fs.locate? p = some found ∧
        place ∈ (candidates fs excluded p found).map (Path.resolve fs.cwd) := by
  induction paths using List.reverseRecOn with
  | nil => simp [ofPaths, empty]
  | append_singleton paths p ih =>
      have last : ofPaths fs excluded (paths ++ [p]) = add fs excluded (ofPaths fs excluded paths) p :=
        List.foldl_concat _ _ _ _
      rw [last, mem_places_add, ih]
      simp [or_and_right, exists_or]

theorem candidates_subset (excludes : ∀ name ∈ excluded, name ∈ more) (p : Path) (place : Place) :
    candidates fs more p place ⊆ candidates fs excluded p place := by
  unfold candidates
  split
  · exact fun _ member => member
  · intro q member
    obtain ⟨names, spelled, file, known, open_⟩ := mem_searched_iff.1 member
    exact mem_searched_iff.2 ⟨names, spelled, file, known, fun inner between forbidden =>
      open_ inner between (excludes inner forbidden)⟩

theorem places_subset (excludes : ∀ name ∈ excluded, name ∈ more) (paths : List Path) :
    (ofPaths fs more paths).files.map (Path.resolve fs.cwd) ⊆
      (ofPaths fs excluded paths).files.map (Path.resolve fs.cwd) := by
  intro place member
  obtain ⟨p, listed, found, located, candidate⟩ := mem_places_ofPaths.1 member
  refine mem_places_ofPaths.2 ⟨p, listed, found, located, ?_⟩
  exact List.map_subset _ (candidates_subset excludes p found) candidate

theorem mem_places_of_named {paths : List Path} {p : Path} {place : Place} (listed : p ∈ paths)
    (located : fs.locate? p = some place) (file : fs.isFile place = true)
    (known : p.language?.isSome = true) :
    p.resolve fs.cwd ∈ (ofPaths fs excluded paths).files.map (Path.resolve fs.cwd) := by
  refine mem_places_ofPaths.2 ⟨p, listed, place, located, ?_⟩
  simp [candidates, file, known]

end Collection

theorem exclusions_only_shrink (env : Environment) (first second : String) :
    (∀ name, name ∈ env.exclusionsUnder (first ++ "," ++ second) ↔
      name ∈ env.exclusionsUnder first ∨ name ∈ env.exclusionsUnder second) ∧
    (∀ setting, ∀ name ∈ env.exclusionsUnder setting, name ∈ builtinExclusions ∨ IsListed name) ∧
    ∀ (fs : FileSystem) (paths : List Path),
      let placesUnder (setting : String) :=
        (Collection.ofPaths fs (env.exclusionsUnder setting) paths).files.map (Path.resolve fs.cwd)
      placesUnder (first ++ "," ++ second) ⊆ placesUnder first ∧
      ∀ p ∈ paths, ∀ place, fs.locate? p = some place → fs.isFile place = true →
        p.language?.isSome = true → ∀ setting, p.resolve fs.cwd ∈ placesUnder setting := by
  have union : ∀ name, name ∈ env.exclusionsUnder (first ++ "," ++ second) ↔
      name ∈ env.exclusionsUnder first ∨ name ∈ env.exclusionsUnder second := by
    intro name
    simp only [mem_exclusionsUnder_iff, listedNames_join, List.mem_append]
    exact or_or_distrib_left
  refine ⟨union, fun setting name member => ?_, fun fs paths => ⟨?_, ?_⟩⟩
  · exact (mem_exclusionsUnder_iff.1 member).imp_right isListed_of_mem
  · exact Collection.places_subset (fun name member => (union name).2 (.inl member)) paths
  · intro p listed place located file known setting
    exact Collection.mem_places_of_named listed located file known

open Collection.Sample in
theorem exclusions_only_shrink_sample :
    let env : Environment := .empty
    let placesUnder (setting : String) :=
      (Collection.ofPaths nested (env.exclusionsUnder setting) nestedPaths).files.map
        (Path.resolve nested.cwd)
    "lib" ∈ env.exclusionsUnder ("src" ++ "," ++ ", lib\t,") ∧ "" ∉ env.exclusionsUnder ", lib\t," ∧
    placesUnder ("src" ++ "," ++ ", lib\t,") ⊆ placesUnder "src" ∧
    ["app", "src", "vendor", "b.TSX"] ∈ placesUnder ("src" ++ "," ++ ", lib\t,") := by
  intro env placesUnder
  obtain ⟨union, listed, collected⟩ := exclusions_only_shrink env "src" ", lib\t,"
  obtain ⟨shrinks, named⟩ := collected nested nestedPaths
  refine ⟨(union "lib").2 (.inr (by decide +kernel)), fun member => ?_, shrinks, ?_⟩
  · exact (listed _ "" member).elim (by decide) fun proper => proper.ne_empty rfl
  · exact named ⟨"/", ["app", "src", "vendor", "b.TSX"]⟩ (by decide +kernel)
      ["app", "src", "vendor", "b.TSX"] (by decide +kernel) (by decide +kernel) (by decide +kernel) _

end StyleAudit
