import MaterialNode.Proofs.Files.Resolution
import MaterialNode.Workspace

/-!
# What Writing Leaves Alone

A write changes one file and no directory, so paths resolve as before and all other files keep what
they hold. Creating a directory with those above it adds directories and leaves the rest alone.

## Main definitions

* `FileTree.ChangesOnly`: only files at given places are written.
* `FileTree.AddsDirectories`: only directories are added.
* `Workspace.ChangesOnly`: the same for the files of a workspace, whose log file and storage stay.

## Main results

* `FileTree.ChangesOnly.of_writeContent`: a write changes the location that its path spells.
* `FileTree.addsDirectories_createDirectories`: creating directories adds directories.
* `Workspace.changesOnly_recorded`: recording changes the log file.
-/

namespace MaterialNode

namespace FileTree

/-- Whether a file stands at a location. -/
def HasFile (tree : FileTree) (location : Location) : Prop :=
  ∃ content, tree.entryAt? location = some (.file content)

instance (tree : FileTree) (location : Location) : Decidable (tree.HasFile location) :=
  match h : tree.entryAt? location with
  | some (.file content) => isTrue ⟨content, h⟩
  | some .directory => isFalse fun ⟨_, h'⟩ => nomatch h.symm.trans h'
  | none => isFalse fun ⟨_, h'⟩ => nomatch h.symm.trans h'

/-- The second tree comes from the first by writing files at the given places. -/
structure ChangesOnly (places : List Location) (before after : FileTree) : Prop where
  /-- The working directory stays. -/
  workDir_eq : after.workDir = before.workDir
  /-- No directory is added or removed. -/
  directory_iff : ∀ location, after.entryAt? location = some .directory
    ↔ before.entryAt? location = some .directory
  /-- Nothing is removed. -/
  isSome_of_isSome : ∀ location, (before.entryAt? location).isSome = true →
    (after.entryAt? location).isSome = true
  /-- Elsewhere everything stays. -/
  entryAt?_eq : ∀ location ∉ places, after.entryAt? location = before.entryAt? location

namespace ChangesOnly

variable {places places' : List Location} {first second third : FileTree} {path text : Text}

theorem refl (places : List Location) (tree : FileTree) : ChangesOnly places tree tree where
  workDir_eq := rfl
  directory_iff _ := Iff.rfl
  isSome_of_isSome _ h := h
  entryAt?_eq _ _ := rfl

theorem trans (h : ChangesOnly places first second) (h' : ChangesOnly places second third) :
    ChangesOnly places first third where
  workDir_eq := h'.workDir_eq.trans h.workDir_eq
  directory_iff location := (h'.directory_iff location).trans (h.directory_iff location)
  isSome_of_isSome location hsome :=
    h'.isSome_of_isSome location (h.isSome_of_isSome location hsome)
  entryAt?_eq location hnot := (h'.entryAt?_eq location hnot).trans (h.entryAt?_eq location hnot)

theorem mono (h : ChangesOnly places first second) (hsubset : places ⊆ places') :
    ChangesOnly places' first second where
  workDir_eq := h.workDir_eq
  directory_iff := h.directory_iff
  isSome_of_isSome := h.isSome_of_isSome
  entryAt?_eq location hnot := h.entryAt?_eq location fun hmem => hnot (hsubset hmem)

/-- A file is put where no directory stands. -/
theorem of_put {location : Location} (h : first.entryAt? location ≠ some .directory)
    (content : Content) : ChangesOnly [location] first (first.put location (.file content)) := by
  have hne : location ≠ [] := by
    rintro rfl
    exact h rfl
  -- What stands at any place afterwards is decided by one comparison.
  have hput := fun other => entryAt?_put first location other (.file content) hne
  constructor
  · rfl
  · intro other
    rw [hput]
    by_cases heq : other = location
    · simp [heq, h]
    · rw [if_neg heq]
  · intro other hsome
    rw [hput]
    split
    · rfl
    · exact hsome
  · intro other hnot
    rw [hput, if_neg (by simpa using hnot)]

/-- The same paths resolve, to the same places. -/
theorem resolve_eq_ok_iff (h : ChangesOnly places first second) {place : Place} :
    second.resolve path = .ok place ↔ first.resolve path = .ok place := by
  constructor
  · exact resolve_of_directories h.workDir_eq.symm fun location => (h.directory_iff location).1
  · exact resolve_of_directories h.workDir_eq fun location => (h.directory_iff location).2

/-- A text at another location reads as before. -/
theorem readText_eq_ok_iff (h : ChangesOnly places first second)
    (hplace : Location.ofPath first.workDir path ∉ places) :
    second.readText path = .ok text ↔ first.readText path = .ok text := by
  rw [FileTree.readText_eq_ok_iff, FileTree.readText_eq_ok_iff]
  refine exists_congr fun location => ?_
  rw [h.resolve_eq_ok_iff]
  refine and_congr_right fun hresolve => ?_
  have hlocation : location = Location.ofPath first.workDir path := location_of_resolve hresolve
  rw [h.entryAt?_eq location (hlocation ▸ hplace)]

/-- A write changes the location that its path spells, and nothing else. -/
theorem of_writeContent {content : Content} (h : first.writeContent path content = .ok second) :
    ChangesOnly [Location.ofPath first.workDir path] first second := by
  obtain ⟨location, hresolve, hdirectory, -, rfl⟩ := writeContent_eq_ok_iff.1 h
  rw [← location_of_resolve hresolve]
  exact of_put hdirectory content

theorem of_writeText (h : first.writeText path text = .ok second) :
    ChangesOnly [Location.ofPath first.workDir path] first second :=
  of_writeContent h

end ChangesOnly

/-- What stands where a content was written. -/
theorem entryAt?_of_writeContent {tree other : FileTree} {path : Text} {content : Content}
    (h : tree.writeContent path content = .ok other) :
    other.entryAt? (Location.ofPath tree.workDir path) = some (.file content) := by
  obtain ⟨location, hresolve, hdirectory, -, rfl⟩ := writeContent_eq_ok_iff.1 h
  rw [← location_of_resolve hresolve]
  have hne : location ≠ [] := by
    rintro rfl
    exact hdirectory rfl
  rw [entryAt?_put tree location location _ hne, if_pos rfl]

theorem entryAt?_of_writeText {tree other : FileTree} {path text : Text}
    (h : tree.writeText path text = .ok other) :
    other.entryAt? (Location.ofPath tree.workDir path) = some (.file (.text text)) :=
  entryAt?_of_writeContent h

/-- A text that was written is read back. -/
theorem readText_of_writeText {tree other : FileTree} {path text : Text}
    (h : tree.writeText path text = .ok other) : other.readText path = .ok text := by
  have hentry := entryAt?_of_writeText h
  have hchanges := ChangesOnly.of_writeText h
  obtain ⟨location, hresolve, -, -, -⟩ := writeContent_eq_ok_iff.1 h
  have hlocation : location = Location.ofPath tree.workDir path := location_of_resolve hresolve
  exact readText_eq_ok_iff.2
    ⟨location, hchanges.resolve_eq_ok_iff.2 hresolve, by rw [hlocation, hentry]⟩

/-! ## Creating Directories -/

/-- A directory is created where a path leads and nothing stands. -/
theorem createDirectory_eq_ok_iff {tree other : FileTree} {path : Text} :
    tree.createDirectory path = .ok other
      ↔ ∃ place, tree.resolve path = .ok place ∧ tree.entryAt? place.location = none
        ∧ isTooLong place.location = false ∧ other = tree.put place.location .directory := by
  unfold createDirectory
  cases hresolve : tree.resolve path with
  | error error => simp [bind, Except.bind]
  | ok place =>
    simp only [bind, Except.bind, Except.ok.injEq, exists_eq_left']
    cases hentry : tree.entryAt? place.location with
    | some entry => simp
    | none =>
      cases hlong : isTooLong place.location with
      | true => simp
      | false => simp [pure, Except.pure, eq_comm]

/-- The second tree comes from the first by adding directories. -/
structure AddsDirectories (before after : FileTree) : Prop where
  /-- The working directory stays. -/
  workDir_eq : after.workDir = before.workDir
  /-- What stands somewhere stays. -/
  entryAt?_eq_some : ∀ location entry, before.entryAt? location = some entry →
    after.entryAt? location = some entry
  /-- What is added is a directory. -/
  eq_directory : ∀ location entry, after.entryAt? location = some entry →
    entry = .directory ∨ before.entryAt? location = some entry

namespace AddsDirectories

variable {first second third : FileTree}

theorem refl (tree : FileTree) : AddsDirectories tree tree where
  workDir_eq := rfl
  entryAt?_eq_some _ _ h := h
  eq_directory _ _ h := .inr h

theorem trans (h : AddsDirectories first second) (h' : AddsDirectories second third) :
    AddsDirectories first third where
  workDir_eq := h'.workDir_eq.trans h.workDir_eq
  entryAt?_eq_some location entry hentry :=
    h'.entryAt?_eq_some location entry (h.entryAt?_eq_some location entry hentry)
  eq_directory location entry hentry :=
    (h'.eq_directory location entry hentry).elim .inl (h.eq_directory location entry)

/-- No file is added, removed or changed. -/
theorem file_iff (h : AddsDirectories first second) {location : Location} {content : Content} :
    second.entryAt? location = some (.file content)
      ↔ first.entryAt? location = some (.file content) := by
  constructor
  · intro hentry
    exact (h.eq_directory location _ hentry).resolve_left nofun
  · exact h.entryAt?_eq_some location _

theorem of_createDirectory {path : Text} (h : first.createDirectory path = .ok second) :
    AddsDirectories first second := by
  obtain ⟨place, -, hentry, -, rfl⟩ := createDirectory_eq_ok_iff.1 h
  -- The root exists already, so the new directory is another place.
  have hne : place.location ≠ [] := by
    intro hroot
    rw [hroot] at hentry
    cases hentry
  have hput := fun other => entryAt?_put first place.location other .directory hne
  constructor
  · rfl
  · intro location entry hold
    rw [hput, if_neg]
    · exact hold
    · rintro rfl
      rw [hentry] at hold
      cases hold
  · intro location entry hnew
    rw [hput] at hnew
    split at hnew
    · exact .inl (Option.some.inj hnew).symm
    · exact .inr hnew

end AddsDirectories

theorem addsDirectories_createDirectoriesWith (fuel : Nat) (tree : FileTree) (path : Text) :
    AddsDirectories tree (tree.createDirectoriesWith fuel path).2 := by
  fun_induction createDirectoriesWith fuel tree path with
  | case1 => exact .refl tree
  | case2 _ _ _ _ hcreate => exact .of_createDirectory hcreate
  | case3 _ _ _ _ _ _ _ _ habove ih =>
    -- The directories above could not all be created; those that were stay.
    rwa [habove] at ih
  | case4 _ _ _ _ _ _ _ _ habove _ hcreate ih =>
    rw [habove] at ih
    exact ih.trans (.of_createDirectory hcreate)
  | case5 _ _ _ _ _ _ _ _ habove _ _ ih => rwa [habove] at ih
  | case6 => exact .refl tree
  | case7 => exact .refl tree

/-- Creating a directory and those above it adds directories and leaves the rest alone. -/
theorem addsDirectories_createDirectories (tree : FileTree) (path : Text) :
    AddsDirectories tree (tree.createDirectories path).2 :=
  addsDirectories_createDirectoriesWith path.length tree path

end FileTree

/-! ## Workspaces -/

namespace Workspace

/-- The location of the log file, if one is open. -/
def logPlaces (space : Workspace) : List Location := (space.logFile.map (·.location)).toList

/-- What is open as a log file is a file. -/
def LogIsFile (space : Workspace) : Prop :=
  ∀ location ∈ space.logPlaces, space.files.HasFile location

/-- The second workspace comes from the first by writing files at the given places. -/
structure ChangesOnly (places : List Location) (before after : Workspace) : Prop where
  /-- The log file stays open. -/
  logFile_eq : after.logFile = before.logFile
  /-- The storage stays. -/
  storage_eq : after.storage = before.storage
  /-- Only files at the places are written. -/
  files : before.files.ChangesOnly places after.files

variable {places places' : List Location} {first second third : Workspace}

namespace ChangesOnly

theorem refl (places : List Location) (space : Workspace) : ChangesOnly places space space :=
  ⟨rfl, rfl, .refl places space.files⟩

theorem trans (h : ChangesOnly places first second) (h' : ChangesOnly places second third) :
    ChangesOnly places first third :=
  ⟨h'.logFile_eq.trans h.logFile_eq, h'.storage_eq.trans h.storage_eq, h.files.trans h'.files⟩

theorem mono (h : ChangesOnly places first second) (hsubset : places ⊆ places') :
    ChangesOnly places' first second :=
  ⟨h.logFile_eq, h.storage_eq, h.files.mono hsubset⟩

theorem withFiles {files : FileTree} (h : first.files.ChangesOnly places files) :
    ChangesOnly places first (first.withFiles files) := ⟨rfl, rfl, h⟩

theorem logPlaces_eq (h : ChangesOnly places first second) :
    second.logPlaces = first.logPlaces := by
  rw [logPlaces, logPlaces, h.logFile_eq]

/-- A file that is open as a log file stays one. -/
theorem logIsFile (h : ChangesOnly places first second) (hlog : first.LogIsFile) :
    second.LogIsFile := by
  intro location hlocation
  rw [h.logPlaces_eq] at hlocation
  obtain ⟨content, hfile⟩ := hlog location hlocation
  cases hentry : second.files.entryAt? location with
  | none =>
    have hsome := h.files.isSome_of_isSome location (by rw [hfile]; rfl)
    rw [hentry] at hsome
    cases hsome
  | some entry =>
    cases entry with
    | file content' => exact ⟨content', hentry⟩
    | directory =>
      rw [(h.files.directory_iff location).1 hentry] at hfile
      cases hfile

end ChangesOnly

theorem logIsFile_ofFiles (files : FileTree) : (ofFiles files).LogIsFile := by
  rintro location ⟨⟩

/-- Recording changes the log file, if one is open. -/
theorem changesOnly_recorded {space : Workspace} (hlog : space.LogIsFile) (log : List LogRecord) :
    ChangesOnly space.logPlaces space (space.recorded log) := by
  cases hfile : space.logFile with
  | none =>
    rw [recorded, hfile]
    exact .refl ..
  | some logFile =>
    have hplaces : space.logPlaces = [logFile.location] := by
      rw [logPlaces, hfile]
      rfl
    obtain ⟨content, hcontent⟩ := hlog logFile.location (by simp [hplaces])
    rw [recorded, hfile, hplaces]
    apply ChangesOnly.withFiles
    rw [FileTree.extendFile, hcontent]
    exact .of_put (by simp [hcontent]) _

end Workspace

end MaterialNode
