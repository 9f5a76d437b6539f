import MaterialNode.Plan
import MaterialNode.Proofs.Files.Search

/-!
# Texture Imports

A plan lists the files of its textures in the order of paths, which goes by components, and drops the
paths with the components of the one kept before. After sorting, the spellings of one path stand
together and in the order in which they came, so the first that came is kept
(`Path.filter_dropRepeats_sort`). The textures come by ascending slot, so the list names each file once,
and it spells the file like the texture with the lowest slot (`MaterialPlan.isImportList_ofProgram`).

## Main definitions

* `MaterialPlan.importPath`: the path of an import.
* `MaterialPlan.IsImportList`: what a list of imports holds for the textures of a stage.
-/

namespace MaterialNode

/-! ## Keys in Weakly Ascending Order -/

namespace SortKey

variable {κ : Type} [SortKey κ] {a b c : κ}

/-- Since keys are ordered totally, not to come before is transitive. -/
theorem before_eq_false_trans (hba : before b a = false) (hcb : before c b = false) :
    before c a = false := by
  cases hca : before c a with
  | false => rfl
  | true =>
    cases hab : before a b with
    | true => exact absurd (trans hca hab) (by simp [hcb])
    | false =>
      obtain rfl := connected hab hba
      exact absurd hca (by simp [hcb])

/-- A key that comes before another comes before all that the other does not come after. -/
theorem before_of_before_of_eq_false (hab : before a b = true) (hcb : before c b = false) :
    before a c = true := by
  cases hac : before a c with
  | true => rfl
  | false => exact absurd hab (by simp [before_eq_false_trans hcb hac])

end SortKey

namespace Path

variable {first second path other last : Text} {paths : List Text}

/-! ## Spellings of One Path -/

theorem equivalent_iff : equivalent first second = true ↔ components first = components second := by
  rw [equivalent, decide_eq_true_eq]

/-- Spellings of one path are spellings of the same paths. -/
theorem equivalent_congr_left (h : equivalent first second = true) (path : Text) :
    equivalent first path = equivalent second path := by
  rw [equivalent, equivalent, equivalent_iff.1 h]

theorem equivalent_congr_right (h : equivalent first second = true) (path : Text) :
    equivalent path first = equivalent path second := by
  rw [equivalent, equivalent, equivalent_iff.1 h]

/-- A path that comes before another is not a spelling of it. -/
theorem equivalent_eq_false_of_before (h : before first second = true) :
    equivalent first second = false := by
  rw [equivalent, decide_eq_false_iff_not]
  intro heq
  rw [before, heq, SortKey.irrefl] at h
  cases h

/-! ## Stable Sorting -/

/-- Whether paths stand in an order in which none comes before one that stands before it. -/
def IsSorted (paths : List Text) : Prop :=
  paths.Pairwise fun first second => before second first = false

theorem isSorted_insertSorted (h : IsSorted paths) (path : Text) :
    IsSorted (insertSorted path paths) := by
  induction paths with
  | nil => exact List.pairwise_singleton ..
  | cons first rest ih =>
    obtain ⟨hfirst, hrest⟩ := List.pairwise_cons.1 h
    rw [insertSorted]
    by_cases hbefore : before first path = true
    · rw [if_pos hbefore]
      refine List.pairwise_cons.2 ⟨fun other hother => ?_, ih hrest⟩
      rcases mem_insertSorted hother with rfl | hother
      · exact SortKey.asymm hbefore
      · exact hfirst other hother
    · rw [if_neg hbefore]
      rw [Bool.not_eq_true] at hbefore
      refine List.pairwise_cons.2 ⟨fun other hother => ?_, h⟩
      rcases List.mem_cons.1 hother with rfl | hother
      · exact hbefore
      · exact SortKey.before_eq_false_trans hbefore (hfirst other hother)

theorem isSorted_sort (paths : List Text) : IsSorted (sort paths) := by
  induction paths with
  | nil => exact List.Pairwise.nil
  | cons path rest ih => exact isSorted_insertSorted ih path

/-- A path is put before the other spellings of it. -/
theorem filter_insertSorted (spelling path : Text) (paths : List Text) :
    (insertSorted path paths).filter (equivalent spelling)
      = (path :: paths).filter (equivalent spelling) := by
  induction paths with
  | nil => rfl
  | cons first rest ih =>
    rw [insertSorted]
    by_cases hbefore : before first path = true
    · -- The path passes over another path only, so at most one of them has the spelling.
      rw [if_pos hbefore, List.filter_cons, ih]
      by_cases hfirst : equivalent spelling first = true
      · have hpath : equivalent spelling path = false := by
          rw [← equivalent_eq_false_of_before hbefore, equivalent, equivalent,
            equivalent_iff.1 hfirst]
        simp [hfirst, hpath]
      · simp [List.filter_cons, hfirst]
    · rw [if_neg hbefore]

/-- Sorting leaves the spellings of one path in their order. -/
theorem filter_sort (spelling : Text) (paths : List Text) :
    (sort paths).filter (equivalent spelling) = paths.filter (equivalent spelling) := by
  induction paths with
  | nil => rfl
  | cons path rest ih => rw [sort, filter_insertSorted, List.filter_cons, ih, List.filter_cons]

/-! ## Dropped Spellings -/

theorem dropRepeatsAfter_sublist (last : Text) (paths : List Text) :
    (dropRepeatsAfter last paths).Sublist paths := by
  induction paths generalizing last with
  | nil => exact List.Sublist.refl _
  | cons path rest ih =>
    rw [dropRepeatsAfter]
    split
    · exact (ih last).cons path
    · exact (ih path).cons_cons path

/-- In sorted paths, a path comes before all that follow it, unless the next one is a spelling of
it. -/
theorem before_of_isSorted (h : IsSorted (last :: path :: paths))
    (hnot : equivalent last path = false) : ∀ other ∈ path :: paths, before last other = true := by
  obtain ⟨hlast, hpath⟩ := List.pairwise_cons.1 h
  have hbefore : before last path = true := by
    refine before_of_not_before (hlast path List.mem_cons_self) fun heq => ?_
    rw [equivalent, decide_eq_false_iff_not] at hnot
    exact hnot heq.symm
  intro other hother
  rcases List.mem_cons.1 hother with rfl | hother
  · exact hbefore
  · -- What follows the next path does not come before it.
    exact SortKey.before_of_before_of_eq_false hbefore ((List.pairwise_cons.1 hpath).1 other hother)

/-- What is kept of sorted paths is strictly ascending. -/
theorem pairwise_dropRepeatsAfter (h : IsSorted (last :: paths)) :
    (last :: dropRepeatsAfter last paths).Pairwise fun first second =>
      before first second = true := by
  induction paths generalizing last with
  | nil => exact List.pairwise_singleton ..
  | cons path rest ih =>
    rw [dropRepeatsAfter]
    cases hsame : equivalent last path with
    | true => exact ih (h.sublist ((List.sublist_cons_self path rest).cons_cons last))
    | false =>
      refine List.pairwise_cons.2 ⟨fun other hother => ?_, ih (List.pairwise_cons.1 h).2⟩
      have hkept := (dropRepeatsAfter_sublist path rest).cons_cons path
      exact before_of_isSorted h hsame other (hkept.subset hother)

/-- Of the spellings of one path, the first is kept. -/
theorem filter_dropRepeatsAfter (spelling : Text) (h : IsSorted (last :: paths)) :
    (last :: dropRepeatsAfter last paths).filter (equivalent spelling)
      = ((last :: paths).filter (equivalent spelling)).take 1 := by
  induction paths generalizing last with
  | nil => cases hlast : equivalent spelling last <;> simp [dropRepeatsAfter, hlast]
  | cons path rest ih =>
    rw [dropRepeatsAfter]
    cases hsame : equivalent last path with
    | true =>
      -- The next path is dropped, and it is a spelling only if the last one is.
      have hdropped := ih (h.sublist ((List.sublist_cons_self path rest).cons_cons last))
      have hpath := equivalent_congr_right hsame spelling
      cases hlast : equivalent spelling last with
      | true => simpa [hlast] using hdropped
      | false => simpa [hlast, ← hpath] using hdropped
    | false =>
      have hkept := ih (List.pairwise_cons.1 h).2
      cases hlast : equivalent spelling last with
      | false => simpa [hlast] using hkept
      | true =>
        -- All that follows comes after the last path, so none of it is a spelling.
        have hnone : (path :: rest).filter (equivalent spelling) = [] := by
          refine List.filter_eq_nil_iff.2 fun other hother => ?_
          rw [equivalent_congr_left hlast,
            equivalent_eq_false_of_before (before_of_isSorted h hsame other hother)]
          exact Bool.false_ne_true
        rw [hnone, List.take_nil] at hkept
        simp [hlast, hkept]

theorem pairwise_dropRepeats_sort (paths : List Text) :
    (dropRepeats (sort paths)).Pairwise fun first second => before first second = true := by
  have hsorted := isSorted_sort paths
  cases hsort : sort paths with
  | nil => exact List.Pairwise.nil
  | cons first rest =>
    rw [hsort] at hsorted
    exact pairwise_dropRepeatsAfter hsorted

/-- Of the spellings of one path, the first that came is kept. -/
theorem filter_dropRepeats_sort (spelling : Text) (paths : List Text) :
    (dropRepeats (sort paths)).filter (equivalent spelling)
      = (paths.filter (equivalent spelling)).take 1 := by
  have hsorted := isSorted_sort paths
  rw [← filter_sort spelling paths]
  cases hsort : sort paths with
  | nil => rfl
  | cons first rest =>
    rw [hsort] at hsorted
    exact filter_dropRepeatsAfter spelling hsorted

end Path

/-! ## The Imports of a Plan -/

namespace MaterialPlan

/-- The path of the file of a texture: below the folder of the textures, or as the hash spells it if
this is absolute. -/
def importPath (hash : Text) : Text :=
  if hash.head? = some '/' then hash ++ ".dds" else "Textures/" ++ hash ++ ".dds"

/-- Joining the folder of the textures and the name of a file gives the path of an import. -/
theorem textureFile_nil (hash : Text) : textureFile [] hash = importPath hash := by
  have hfolder : Path.join [] "Textures" = ("Textures" : Text) := by decide
  rw [textureFile, hfolder, importPath, Path.join]
  -- The ending starts with a dot, so the hash alone decides whether the name is absolute.
  cases hash with
  | nil => rfl
  | cons c hash =>
    by_cases hc : c = '/'
    · simp [Path.isAbsolute, hc]
    · simp [Path.isAbsolute, hc]

/-- What a list of imports holds for the textures of a stage: each of their files once. -/
structure IsImportList (imports : List Text) (textures : Table Nat BoundTexture) : Prop where
  /-- The imports are strictly ascending in the order of paths. -/
  ascending : imports.Pairwise fun first second => Path.before first second = true
  /-- No two imports are spellings of one path. -/
  not_equivalent : imports.Pairwise fun first second => Path.equivalent first second = false
  /-- One import is a spelling of the file of a texture. -/
  countP_eq_one : ∀ slot info, textures.get? slot = some info →
    imports.countP (Path.equivalent (importPath info.hash)) = 1
  /-- An import is the file of a texture as this texture spells it. All textures whose file it is as
  well have larger slots. -/
  exists_lowest : ∀ path ∈ imports, ∃ slot info, textures.get? slot = some info
    ∧ path = importPath info.hash
    ∧ ∀ other otherInfo, textures.get? other = some otherInfo →
      Path.equivalent path (importPath otherInfo.hash) = true → slot ≤ other

/-- The paths of the textures of a stage, by ascending slot. -/
def importPaths (textures : Table Nat BoundTexture) : List Text :=
  textures.entries.map fun entry => importPath entry.2.hash

theorem textureImports_ofProgram (material : Text) (program : Program) (metadata : StageMetadata) :
    (ofProgram material program (some metadata)).textureImports
      = Path.dropRepeats (Path.sort (importPaths metadata.textures)) := by
  simp only [ofProgram, boundTextures, importPaths, textureFile_nil]

/-- The first path with the components of another is that of the lowest slot. -/
theorem exists_lowest_of_filter {textures : Table Nat BoundTexture} {spelling path : Text}
    (h : path ∈ ((importPaths textures).filter (Path.equivalent spelling)).take 1) :
    ∃ slot info, textures.get? slot = some info ∧ path = importPath info.hash
      ∧ ∀ other otherInfo, textures.get? other = some otherInfo →
        Path.equivalent spelling (importPath otherInfo.hash) = true → slot ≤ other := by
  rw [importPaths, List.filter_map] at h
  have hascending := textures.ascending.filter
    (Path.equivalent spelling ∘ fun entry => importPath entry.2.hash)
  -- The entries with the path are those of a stage in ascending order, and the first is taken.
  generalize hchosen : textures.entries.filter _ = chosen at h hascending
  cases chosen with
  | nil => simp at h
  | cons entry rest =>
    obtain rfl : path = importPath entry.2.hash := by simpa using h
    have hmem : ∀ other, other ∈ entry :: rest ↔ other ∈ textures.entries
        ∧ Path.equivalent spelling (importPath other.2.hash) = true := by
      rw [← hchosen]
      exact fun other => List.mem_filter
    have hentry : entry ∈ textures.entries := ((hmem entry).1 List.mem_cons_self).1
    refine ⟨entry.1, entry.2, Table.mem_entries_iff.1 hentry, rfl, ?_⟩
    intro other otherInfo hother hspelled
    have hlisted := (hmem (other, otherInfo)).2 ⟨Table.mem_entries_iff.2 hother, hspelled⟩
    rcases List.mem_cons.1 hlisted with heq | hlater
    · exact Nat.le_of_eq (congrArg Prod.fst heq).symm
    · exact Nat.le_of_lt (of_decide_eq_true ((List.pairwise_cons.1 hascending).1 _ hlater))

/-- The imports of a plan are the files of its textures, each once, in the order of paths. Of the
spellings of one path the one with the lowest slot is kept. -/
theorem isImportList_ofProgram (material : Text) (program : Program) (metadata : StageMetadata) :
    IsImportList (ofProgram material program (some metadata)).textureImports metadata.textures := by
  rw [textureImports_ofProgram]
  have hascending := Path.pairwise_dropRepeats_sort (importPaths metadata.textures)
  refine ⟨hascending, hascending.imp Path.equivalent_eq_false_of_before, ?_, ?_⟩
  · intro slot info hinfo
    have hmem : importPath info.hash ∈ (importPaths metadata.textures).filter
        (Path.equivalent (importPath info.hash)) := by
      refine List.mem_filter.2 ⟨?_, Path.equivalent_iff.2 rfl⟩
      exact List.mem_map_of_mem (Table.mem_entries_iff.2 hinfo)
    have hlength := List.length_pos_of_mem hmem
    rw [List.countP_eq_length_filter, Path.filter_dropRepeats_sort, List.length_take]
    omega
  · intro path hpath
    refine exists_lowest_of_filter ?_
    rw [← Path.filter_dropRepeats_sort]
    exact List.mem_filter.2 ⟨hpath, Path.equivalent_iff.2 rfl⟩

/-- The spelling of slot 2 is kept, `a/x` comes before `a-b`, and an absolute path before all. -/
example :
    let textures := .ofList
      [(9, ⟨"a/x", true⟩), (7, ⟨"a-b", true⟩), (2, ⟨"a//./x", false⟩), (3, ⟨"/b", false⟩)]
    (ofProgram "ABCD" (.ofSource [] .pixel) (some ⟨.empty, textures⟩)).textureImports
      = (["/b.dds", "Textures/a//./x.dds", "Textures/a-b.dds"] : List Text) := by
  decide +kernel

end MaterialPlan

end MaterialNode
