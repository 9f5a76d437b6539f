import MaterialNode.Proofs.Files.Changes
import MaterialNode.Proofs.Files.Search

/-!
# Hierarchies

In a hierarchy everything stands in a directory, under a name. A path that leads anywhere leads into
a directory then, and where nothing stands yet it has a directory to put something into.

## Main definitions

* `FileTree.IsHierarchy`: everything in a tree stands in a directory.

## Main results

* `FileTree.IsHierarchy.exists_of_resolve`: where a path leads to no directory, there is a directory
  that the path leads into.
* `FileTree.IsHierarchy.createDirectories`, `FileTree.IsHierarchy.writeContent`,
  `Workspace.isHierarchy_recorded`: creating directories, writing files and recording keep a
  hierarchy.
-/

namespace MaterialNode

namespace FileTree

variable {tree other : FileTree} {path : Text}

/-- Whether everything in a tree stands in a directory, the working directory included. -/
structure IsHierarchy (tree : FileTree) : Prop extends IsWellFormed tree where
  /-- What stands somewhere stands in a directory. -/
  parent_eq : ∀ item ∈ tree.table.entries, tree.entryAt? item.1.dropLast = some .directory
  /-- The working directory is a directory. -/
  workDir_eq : tree.entryAt? tree.workDir = some .directory

/-- What stands somewhere stands under names. -/
theorem IsWellFormed.isName_of_entryAt? (h : tree.IsWellFormed) {location : Location}
    {entry : Entry} (hentry : tree.entryAt? location = some entry) :
    ∀ name ∈ location, Path.IsName name := by
  intro name hname
  have hne : location ≠ [] := List.ne_nil_of_mem hname
  rw [entryAt?, if_neg (by simpa using hne)] at hentry
  exact h.isName _ (Table.mem_entries_iff.2 hentry) name hname

/-- A name of a path can be the name of a directory, if it is not made of dots. -/
theorem isName_of_mem_names {name : Text} (h : name ∈ Path.names path) (hdot : name ≠ ['.'])
    (hdots : name ≠ ['.', '.']) : Path.IsName name := by
  obtain ⟨hfield, hne⟩ := List.mem_filter.1 h
  exact ⟨by simpa using hne, Text.not_mem_of_mem_fields hfield, hdot, hdots⟩

namespace IsHierarchy

/-- What stands somewhere stands in a directory. -/
theorem dropLast_eq (h : tree.IsHierarchy) {location : Location} {entry : Entry}
    (hentry : tree.entryAt? location = some entry) :
    tree.entryAt? location.dropLast = some .directory := by
  by_cases hne : location = []
  · rw [hne]
    rfl
  · rw [entryAt?, if_neg (by simpa using hne)] at hentry
    exact h.parent_eq _ (Table.mem_entries_iff.2 hentry)

theorem origin_eq (h : tree.IsHierarchy) (path : Text) :
    tree.entryAt? (Location.origin tree.workDir path) = some .directory := by
  rw [Location.origin]
  split
  · rfl
  · exact h.workDir_eq

/-- Dots lead from a directory to a directory. -/
theorem step_eq (h : tree.IsHierarchy) {name : Text} {location : Location}
    (hlocation : tree.entryAt? location = some .directory)
    (hname : name = ['.'] ∨ name = ['.', '.']) :
    tree.entryAt? (Location.step location name) = some .directory := by
  rw [Location.step]
  split
  · exact hlocation
  · rw [if_pos (hname.resolve_left ‹_›)]
    exact h.dropLast_eq hlocation

/-- Names lead from a directory to a directory. -/
theorem follow_eq (h : tree.IsHierarchy) {names : List Text} {start location : Location}
    (hstart : tree.entryAt? start = some .directory)
    (hfollow : tree.follow start names = .ok location) :
    tree.entryAt? location = some .directory := by
  -- One name at a time: what the walk has reached is a directory.
  induction names generalizing start with
  | nil =>
    cases hfollow
    exact hstart
  | cons name names ih =>
    obtain ⟨hdirectory, hrest⟩ := follow_cons_eq_ok_iff.1 hfollow
    refine ih ?_ hrest
    by_cases hdots : name = ['.'] ∨ name = ['.', '.']
    · exact h.step_eq hstart hdots
    · rw [not_or] at hdots
      rw [Location.step_of_ne hdots.1 hdots.2]
      exact hdirectory hdots.1 hdots.2

/-- Where a path leads to no directory, there is a directory and a name in it. -/
theorem exists_of_resolve (h : tree.IsHierarchy) {place : Place}
    (hresolve : tree.resolve path = .ok place)
    (hentry : tree.entryAt? place.location ≠ some .directory) :
    ∃ parent name, place.location = parent ++ [name]
      ∧ tree.entryAt? parent = some .directory ∧ Path.IsName name := by
  rcases resolve_cases hresolve with ⟨-, -, rfl⟩ | ⟨above, last, parent, hnames, hfollow, rfl⟩
  · exact absurd rfl hentry
  have hparent := h.follow_eq (h.origin_eq path) hfollow
  by_cases hdots : last = ['.'] ∨ last = ['.', '.']
  · exact absurd (h.step_eq hparent hdots) hentry
  · rw [not_or] at hdots
    refine ⟨parent, last, Location.step_of_ne hdots.1 hdots.2 parent, hparent, ?_⟩
    have hlast : last ∈ Path.names path := by simp [hnames]
    exact isName_of_mem_names hlast hdots.1 hdots.2

/-- Something put under a name into a directory, in place of nothing or of a file, keeps a
hierarchy. -/
theorem put (h : tree.IsHierarchy) {parent : Location} {name : Text} {entry : Entry}
    (hparent : tree.entryAt? parent = some .directory) (hname : Path.IsName name)
    (hplace : tree.entryAt? (parent ++ [name]) ≠ some .directory) :
    (tree.put (parent ++ [name]) entry).IsHierarchy := by
  have hput := fun other => entryAt?_put tree (parent ++ [name]) other entry (by simp)
  -- What is listed afterwards is the new entry, or was listed before.
  have hlisted : ∀ item ∈ (tree.put (parent ++ [name]) entry).table.entries,
      item.1 = parent ++ [name] ∨ item ∈ tree.table.entries := by
    intro item hitem
    exact (Table.mem_insertEntry hitem).imp_left fun heq => by rw [heq]
  have hnames : ∀ other ∈ parent ++ [name], Path.IsName other := by
    intro other hother
    rcases List.mem_append.1 hother with hother | hother
    · exact h.isName_of_entryAt? hparent other hother
    · rwa [List.mem_singleton.1 hother]
  -- No directory is replaced, so that what stood in one still does.
  have hdirectory : ∀ location, tree.entryAt? location = some .directory →
      (tree.put (parent ++ [name]) entry).entryAt? location = some .directory := by
    intro location hlocation
    rw [hput, if_neg]
    · exact hlocation
    · rintro rfl
      exact hplace hlocation
  constructor
  · constructor
    · intro item hitem
      rcases hlisted item hitem with heq | hold
      · simp [heq]
      · exact h.ne_root item hold
    · intro item hitem
      rcases hlisted item hitem with heq | hold
      · rwa [heq]
      · exact h.isName item hold
  · intro item hitem
    apply hdirectory
    rcases hlisted item hitem with heq | hold
    · rwa [heq, List.dropLast_concat]
    · exact h.parent_eq item hold
  · exact hdirectory _ h.workDir_eq

end IsHierarchy

/-! ## Creating Directories -/

namespace IsHierarchy

theorem createDirectory (h : tree.IsHierarchy) (hcreate : tree.createDirectory path = .ok other) :
    other.IsHierarchy := by
  obtain ⟨place, hresolve, hentry, -, rfl⟩ := createDirectory_eq_ok_iff.1 hcreate
  obtain ⟨parent, name, hlocation, hparent, hname⟩ :=
    h.exists_of_resolve hresolve (by simp [hentry])
  rw [hlocation] at hentry ⊢
  exact h.put hparent hname (by simp [hentry])

theorem createDirectoriesWith (h : tree.IsHierarchy) (fuel : Nat) (path : Text) :
    (tree.createDirectoriesWith fuel path).2.IsHierarchy := by
  fun_induction FileTree.createDirectoriesWith fuel tree path with
  | case1 => exact h
  | case2 _ _ _ _ hcreate => exact h.createDirectory hcreate
  | case3 _ _ _ _ _ _ _ _ habove ih => rwa [habove] at ih
  | case4 _ _ _ _ _ _ _ _ habove _ hcreate ih =>
    rw [habove] at ih
    exact ih.createDirectory hcreate
  | case5 _ _ _ _ _ _ _ _ habove _ _ ih => rwa [habove] at ih
  | case6 => exact h
  | case7 => exact h

/-- Directories that are created stand in directories. -/
theorem createDirectories (h : tree.IsHierarchy) (path : Text) :
    (tree.createDirectories path).2.IsHierarchy :=
  h.createDirectoriesWith path.length path

end IsHierarchy

/-! ## Writing Files -/

/-- A file that is written stands in a directory. -/
theorem IsHierarchy.writeContent (h : tree.IsHierarchy) {content : Content}
    (hwrite : tree.writeContent path content = .ok other) : other.IsHierarchy := by
  obtain ⟨location, hresolve, hentry, -, rfl⟩ := writeContent_eq_ok_iff.1 hwrite
  obtain ⟨parent, name, hlocation, hparent, hname⟩ := h.exists_of_resolve hresolve hentry
  obtain rfl : location = parent ++ [name] := hlocation
  exact h.put hparent hname hentry

/-- What is put in place of a file keeps a hierarchy. -/
theorem IsHierarchy.put_of_hasFile (h : tree.IsHierarchy) {location : Location}
    (hfile : tree.HasFile location) (entry : Entry) : (tree.put location entry).IsHierarchy := by
  obtain ⟨content, hentry⟩ := hfile
  rcases List.eq_nil_or_concat location with rfl | ⟨parent, name, rfl⟩
  · cases hentry
  · rw [List.concat_eq_append] at hentry ⊢
    have hparent := h.dropLast_eq hentry
    rw [List.dropLast_concat] at hparent
    exact h.put hparent (h.isName_of_entryAt? hentry name (by simp)) (by simp [hentry])

end FileTree

/-- Recording keeps a hierarchy. -/
theorem Workspace.isHierarchy_recorded {space : Workspace} (hlog : space.LogIsFile)
    (h : space.files.IsHierarchy) (log : List LogRecord) :
    (space.recorded log).files.IsHierarchy := by
  cases hopen : space.logFile with
  | none => rwa [recorded, hopen]
  | some logFile =>
    obtain ⟨content, hentry⟩ := hlog logFile.location (by simp [logPlaces, hopen])
    rw [recorded, hopen]
    show (space.files.extendFile _ _).IsHierarchy
    rw [FileTree.extendFile, hentry]
    exact h.put_of_hasFile ⟨content, hentry⟩ _

end MaterialNode
