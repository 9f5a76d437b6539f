import Mathlib.Data.List.Sort
import MaterialNode.Proofs.Files.Creation
import MaterialNode.Proofs.Files.KeyedPath

/-!
# What Writing Does not Touch

Files that are written at some places leave alone what is read at others, failures included: the
reason of a failure stays as long as nothing is written where the path stops. A search for info
files goes on to find the same ones unless one of them is written. A text that is written where it
stands changes nothing.

## Main definitions

* `FileTree.LeadsOn`: a path leads through directories to the end.

## Main results

* `FileTree.ChangesOnly.readText_eq`: a text at another place, or its absence, is read as before.
* `FileTree.ChangesOnly.writable_eq`: what can be written can be written again, and nothing else.
* `InfoFile.filesUnder_eq`: the same info files are found.
* `FileTree.writeText_again`: writing what was written and still stands changes nothing.
-/

namespace MaterialNode

namespace FileTree

variable {tree first second : FileTree} {places : List Location} {path dir name : Text}

/-! ## Paths that Lead On -/

/-- Whether all names of a path lead through directories, so that there can be something below. -/
def LeadsOn (tree : FileTree) (path : Text) : Prop :=
  ∃ location, tree.follow (Location.origin tree.workDir path) (Path.names path) = .ok location

theorem leadsOn_of_isDirectory (h : path = [] ∨ tree.isDirectory path = true) :
    tree.LeadsOn path := by
  rcases h with rfl | h
  · exact ⟨_, rfl⟩
  obtain ⟨place, hresolve, hentry⟩ := isDirectory_iff.1 h
  rcases resolve_cases hresolve with ⟨hnames, -, -⟩ | ⟨above, last, parent, hnames, hfollow, rfl⟩
  · exact ⟨_, by rw [hnames]; rfl⟩
  · refine ⟨Location.step parent last, ?_⟩
    rw [hnames, follow_append, hfollow]
    refine follow_cons_eq_ok_iff.2 ⟨fun hdot hdots => ?_, rfl⟩
    rwa [Location.step_of_ne hdot hdots] at hentry

/-- The path above one that resolves leads on. -/
theorem leadsOn_of_parent? {parent : Text} (hparent : Path.parent? path = some parent)
    {place : Place} (hresolve : tree.resolve path = .ok place) : tree.LeadsOn parent := by
  obtain ⟨-, habsolute, rest, hrest, hnames⟩ := Path.names_of_parent? hparent
  rcases resolve_cases hresolve with ⟨hnone, -⟩ | ⟨above, last, location, hsome, hfollow, -⟩
  · rw [hnone] at hnames
    exact absurd (List.append_eq_nil_iff.1 hnames.symm).2 hrest
  · obtain ⟨between, last', rfl⟩ : ∃ between last, rest = between ++ [last] := by
      simpa using (List.eq_nil_or_concat _).resolve_left hrest
    rw [← List.append_assoc] at hnames
    rw [(List.append_inj' (hsome.symm.trans hnames) rfl).1, Location.origin, ← habsolute] at hfollow
    exact ⟨_, follow_of_append hfollow⟩

/-- The names of a path that is joined from two start where the first starts. -/
theorem origin_join (h : Path.isAbsolute name = false) (workDir : Location) (dir : Text) :
    Location.origin workDir (Path.join dir name) = Location.origin workDir dir := by
  by_cases hempty : dir = []
  · have hjoin : Path.join [] name = name := by
      rw [Path.join, h]
      rfl
    rw [hempty, hjoin, Location.origin, h]
    rfl
  · rw [Location.origin, Path.isAbsolute_join hempty h]
    rfl

/-- A search comes upon a file in a tree that has the directories that lead to it. -/
theorem IsFound.of_directories {root : Text} {location : Location}
    (hworkDir : second.workDir = first.workDir)
    (hdirectories : ∀ location, first.entryAt? location = some .directory →
      second.entryAt? location = some .directory)
    (hentry : second.entryAt? location = first.entryAt? location)
    (h : first.IsFound root path location) : second.IsFound root path location := by
  have hresolves : ∀ {path place}, first.resolve path = .ok place →
      second.resolve path = .ok place := resolve_of_directories hworkDir hdirectories
  -- Either the root is the file, or the file is in a directory that is reached from it.
  cases h with
  | @itself content place hroot hplace =>
    obtain ⟨_, hresolve, hfile, hdemands⟩ := lookup_eq_ok_iff.1 hroot
    cases hplace.symm.trans hresolve
    refine .itself (lookup_eq_ok_iff.2 ⟨place, hresolves hplace, ?_, hdemands⟩) (hresolves hplace)
    rw [hentry, hfile]
  | below hroot hplace hfile hreached =>
    obtain ⟨place, hresolve, hdirectory, -⟩ := lookup_eq_ok_iff.1 hroot
    obtain ⟨place', hresolve', hdirectory'⟩ := isDirectory_iff.1 hreached
    refine .below (lookup_eq_ok_iff.2 ⟨place, hresolves hresolve, hdirectories _ hdirectory, nofun⟩)
      (hresolves hplace) (hentry.trans hfile) ?_
    exact isDirectory_iff.2 ⟨place', hresolves hresolve', hdirectories _ hdirectory'⟩

/-! ## Reading and Writing Elsewhere -/

namespace ChangesOnly

variable (h : ChangesOnly places first second)

include h

theorem follow_eq_of_ok {names : List Text} {start location : Location}
    (hfollow : first.follow start names = .ok location) :
    second.follow start names = first.follow start names := by
  rw [hfollow]
  exact follow_of_directories (fun location => (h.directory_iff location).2) hfollow

/-- A path resolves as before, or fails to, if its names but the last lead as far as before. -/
theorem resolve_eq (hfollow : second.follow (Location.origin first.workDir path)
      (Path.names path).dropLast
    = first.follow (Location.origin first.workDir path) (Path.names path).dropLast) :
    second.resolve path = first.resolve path := by
  unfold resolve
  unfold Location.origin Path.names at hfollow
  simp only [h.workDir_eq, hfollow]

/-- So does a name in a directory. -/
theorem resolve_join_eq (hdir : first.LeadsOn dir) (hne : name ≠ []) (hname : '/' ∉ name) :
    second.resolve (Path.join dir name) = first.resolve (Path.join dir name) := by
  have hrelative := Path.isAbsolute_of_not_mem hname
  obtain ⟨location, hfollow⟩ := hdir
  apply h.resolve_eq
  rw [Path.names_join hrelative, Path.names_of_not_mem hne hname, List.dropLast_concat,
    origin_join hrelative]
  exact h.follow_eq_of_ok hfollow

/-- So does a name in a directory in a directory, if nothing was written at the latter. -/
theorem resolve_join_join_eq {middle : Text} (hdir : first.LeadsOn dir)
    (hmiddle : Path.IsName middle) (hplaces : ∀ location, location ++ [middle] ∉ places)
    (hne : name ≠ []) (hname : '/' ∉ name) :
    second.resolve (Path.join (Path.join dir middle) name)
      = first.resolve (Path.join (Path.join dir middle) name) := by
  obtain ⟨hne', hslash, hdot, hdots⟩ := hmiddle
  have hrelative := Path.isAbsolute_of_not_mem hname
  have hrelative' := Path.isAbsolute_of_not_mem hslash
  obtain ⟨location, hfollow⟩ := hdir
  apply h.resolve_eq
  rw [Path.names_join hrelative, Path.names_of_not_mem hne hname, List.dropLast_concat,
    Path.names_join hrelative', Path.names_of_not_mem hne' hslash, origin_join hrelative,
    origin_join hrelative', follow_append, follow_append, h.follow_eq_of_ok hfollow, hfollow]
  simp only [Except.bind, follow, if_neg hdot, if_neg hdots,
    h.entryAt?_eq _ (hplaces location)]

/-- A text at another place is read as before, or fails to be. -/
theorem readText_eq (hresolve : second.resolve path = first.resolve path)
    (hplace : Location.ofPath first.workDir path ∉ places) :
    second.readText path = first.readText path := by
  have hlookup : second.lookup path = first.lookup path := by
    unfold lookup
    rw [hresolve]
    cases hplaced : first.resolve path with
    | error error => rfl
    | ok place =>
      rw [← location_of_resolve hplaced] at hplace
      simp only [bind, Except.bind, h.entryAt?_eq _ hplace]
  rw [readText, readText, hlookup]

/-- Whether a text can be written at a path does not depend on what is written. -/
theorem writable_eq (hresolve : second.resolve path = first.resolve path) :
    second.writable path = first.writable path := by
  unfold writable
  rw [hresolve]
  cases first.resolve path with
  | error error => rfl
  | ok place => simp only [bind, Except.bind, h.directory_iff]

/-- Directories go on to be reached. -/
theorem isDirectory (hdirectory : first.isDirectory path = true) :
    second.isDirectory path = true := by
  obtain ⟨place, hresolve, hentry⟩ := isDirectory_iff.1 hdirectory
  exact isDirectory_iff.2
    ⟨place, h.resolve_eq_ok_iff.2 hresolve, (h.directory_iff place.location).2 hentry⟩

/-- A search comes upon the same files, apart from those that were written. -/
theorem isFound_iff {root : Text} {location : Location} (hlocation : location ∉ places) :
    second.IsFound root path location ↔ first.IsFound root path location := by
  have hentry := h.entryAt?_eq location hlocation
  constructor
  · exact .of_directories h.workDir_eq.symm (fun location => (h.directory_iff location).1)
      hentry.symm
  · exact .of_directories h.workDir_eq (fun location => (h.directory_iff location).2) hentry

end ChangesOnly

end FileTree

/-! ## Info Files -/

namespace InfoFile

variable {first second : FileTree} {places : List Location} {root path : Text}

/-- An info file that a search finds stands under its name, in a directory that its path leads
to. -/
theorem exists_of_mem_filesUnder (hwell : first.IsWellFormed)
    (h : path ∈ (filesUnder first root).value) : ∃ above name, Path.names path = above ++ [name]
      ∧ fileEnding <:+ name ∧ ∃ location,
        first.follow (Location.origin first.workDir path) above = .ok location := by
  obtain ⟨location, hfound, name, hlast, hending⟩ := (mem_filesUnder_iff_isFound hwell).1 h
  -- Either the root is the file, or the file is below it and its name ends the path.
  cases hfound with
  | @itself content place hroot hplace =>
    obtain ⟨_, hresolve, -, hdemands⟩ := FileTree.lookup_eq_ok_iff.1 hroot
    cases hplace.symm.trans hresolve
    rcases FileTree.resolve_cases hplace with
      ⟨-, -, rfl⟩ | ⟨above, last, parent, hnames, hfollow, rfl⟩
    · cases hlast
    · rw [show decide (FileTree.DemandsDirectory root last) = false from hdemands nofun] at hplace
      obtain ⟨hdot, hdots, -⟩ := FileTree.ne_dots_of_resolve hplace hnames
      rw [Location.step_of_ne hdot hdots, List.getLast?_concat] at hlast
      exact ⟨above, name, by rw [hnames, Option.some.inj hlast], hending, parent, hfollow⟩
  | @below content place names hroot hplace hfile hreached =>
    obtain ⟨_, hresolve, hdirectory, -⟩ := FileTree.lookup_eq_ok_iff.1 hroot
    cases hplace.symm.trans hresolve
    rcases List.eq_nil_or_concat names with rfl | ⟨above, last, rfl⟩
    · -- The root leads to a directory.
      rw [List.append_nil, hdirectory] at hfile
      cases hfile
    rw [List.concat_eq_append] at hlast hfile hreached ⊢
    have hname : Path.IsName last := hwell.isName_of_entryAt? hfile last (by simp)
    rw [List.dropLast_concat] at hreached
    rw [← List.append_assoc, List.getLast?_concat] at hlast
    obtain ⟨location, hfollow⟩ := FileTree.leadsOn_of_isDirectory (.inr hreached)
    have hpath : FileTree.pathBelow root (above ++ [last])
        = Path.join (FileTree.pathBelow root above) last := List.foldl_concat ..
    refine ⟨Path.names (FileTree.pathBelow root above), name, ?_, hending, location, ?_⟩
    · rw [hpath, Path.names_join hname.isAbsolute_eq, Path.names_of_not_mem hname.1 hname.2.1,
        Option.some.inj hlast]
    · rw [hpath, FileTree.origin_join hname.isAbsolute_eq, hfollow]

/-- The same info files are found after files with other names were written. -/
theorem filesUnder_eq (hfirst : first.IsWellFormed) (hsecond : second.IsWellFormed)
    (h : first.ChangesOnly places second) (hplaces : ∀ location ∈ places, ¬ IsNamedInfo location) :
    (filesUnder second root).value = (filesUnder first root).value := by
  have : Std.Asymm fun first second : Text => Path.before first second = true :=
    ⟨fun _ _ hbefore => Bool.eq_false_iff.1 (SortKey.asymm hbefore)⟩
  refine (pairwise_filesUnder hsecond).eq_of_mem_iff (pairwise_filesUnder hfirst) fun path => ?_
  rw [mem_filesUnder_iff_isFound hfirst, mem_filesUnder_iff_isFound hsecond]
  refine exists_congr fun location => and_congr_left fun hnamed => h.isFound_iff fun hmem => ?_
  exact hplaces location hmem hnamed

/-- They are read as before, or fail to be. -/
theorem readText_eq (hfirst : first.IsWellFormed) (h : first.ChangesOnly places second)
    (hplaces : ∀ location ∈ places, ¬ IsNamedInfo location)
    (hpath : path ∈ (filesUnder first root).value) :
    second.readText path = first.readText path := by
  obtain ⟨above, name, hnames, hending, location, hfollow⟩ := exists_of_mem_filesUnder hfirst hpath
  have hdots : name ≠ ['.'] ∧ name ≠ ['.', '.'] := by
    constructor
    · rintro rfl
      exact absurd hending (by decide)
    · rintro rfl
      exact absurd hending (by decide)
  -- The directory is reached as before, and the file has not the name of an output.
  apply h.readText_eq
  · apply h.resolve_eq
    rw [hnames, List.dropLast_concat]
    exact h.follow_eq_of_ok hfollow
  · intro hmem
    rw [Location.ofPath, hnames, Location.walk_concat, Location.step_of_ne hdots.1 hdots.2] at hmem
    exact hplaces _ hmem ⟨name, List.getLast?_concat, hending⟩

end InfoFile

/-! ## Writing what Stands There -/

namespace FileTree

variable {tree first second : FileTree} {path text : Text}

theorem put_eq_self {location : Location} {entry : Entry} (hne : location ≠ [])
    (h : tree.entryAt? location = some entry) : tree.put location entry = tree := by
  rw [entryAt?, if_neg (by simpa using hne)] at h
  rw [put, Table.insert_eq_self h]

/-- A text is written where a path can be written. -/
theorem writeText_eq (tree : FileTree) (path text : Text) : tree.writeText path text
    = (tree.writable path).map fun location => tree.put location (.file (.text text)) := by
  rw [writeText, writeContent]
  cases tree.writable path <;> rfl

theorem writeText_eq_error_iff {cause : FileError} :
    tree.writeText path text = .error cause ↔ tree.writable path = .error cause := by
  rw [writeText_eq]
  cases tree.writable path <;> simp [Except.map]

/-- Writing what a file holds changes nothing. -/
theorem writeText_eq_self {location : Location} (hwritable : tree.writable path = .ok location)
    (hentry : tree.entryAt? location = some (.file (.text text))) :
    tree.writeText path text = .ok tree := by
  have hne : location ≠ [] := by
    rintro rfl
    cases hentry
  rw [writeText_eq, hwritable, Except.map, put_eq_self hne hentry]

theorem location_of_writable {location : Location} (h : tree.writable path = .ok location) :
    location = Location.ofPath tree.workDir path := by
  unfold writable at h
  cases hresolve : tree.resolve path with
  | error error =>
    rw [hresolve] at h
    cases h
  | ok place =>
    rw [← location_of_resolve hresolve]
    rw [hresolve] at h
    -- The checks after the resolution do not move the place.
    simp only [bind, Except.bind] at h
    split at h
    · cases h
    · split at h
      · cases h
      · exact (Except.ok.inj h).symm

/-- A text that was written is written again, where it stands and the path can be written as
before, and this changes nothing. -/
theorem writeText_again {other : FileTree} (hwrite : first.writeText path text = .ok other)
    (hwritable : second.writable path = first.writable path)
    (hentry : second.entryAt? (Location.ofPath first.workDir path) = some (.file (.text text))) :
    second.writeText path text = .ok second := by
  cases hlocation : first.writable path with
  | error cause => cases hwrite.symm.trans (writeText_eq_error_iff.2 hlocation)
  | ok location =>
    rw [← location_of_writable hlocation] at hentry
    exact writeText_eq_self (hwritable.trans hlocation) hentry

end FileTree

end MaterialNode
