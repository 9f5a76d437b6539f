import MaterialNode.Metadata.Files
import MaterialNode.Proofs.Files.Resolution

/-!
# Searches

The search of a directory tree comes upon each file once, by the path that leads down to it from the
directory searched. The order of paths goes by their components, so that the files of a directory
stay together whatever the names beside it.

## Main definitions

* `FileTree.IsWellFormed`: locations are made of names.
* `FileTree.IsWalkable`: every directory below a root can be read by its path.
* `FileTree.IsFileUnder`: a file that a search of a root is to come upon.
* `FileTree.IsFound`: a file that a search of a root comes upon.

## Main results

* `Path.pairwise_sort`: different paths are sorted into ascending order.
* `InfoFile.mem_filesUnder_iff`: the info files that a search finds.
* `InfoFile.pairwise_filesUnder`: they are found in ascending order, each once.
-/

namespace MaterialNode

open Text

/-! ## The Order of Paths -/

namespace Path

/-- Whether a text can be the name of a file or directory. -/
def IsName (name : Text) : Prop :=
  name ≠ [] ∧ '/' ∉ name ∧ name ≠ ['.'] ∧ name ≠ ['.', '.']

instance (name : Text) : Decidable (IsName name) := inferInstanceAs (Decidable (_ ∧ _))

theorem IsName.ofPiece?_eq {name : Text} (h : IsName name) :
    Component.ofPiece? name = some (.name name) := by
  obtain ⟨hne, -, hdot, hdots⟩ := h
  rw [Component.ofPiece?, if_neg (by simp [hne, hdot]), if_neg hdots]

theorem IsName.isAbsolute_eq {name : Text} (h : IsName name) : isAbsolute name = false :=
  isAbsolute_of_not_mem h.2.1

/-- The components of a path are those of its names, after the opening. -/
theorem components_eq (path : Text) :
    components path = (opening? path).toList ++ (names path).filterMap Component.ofPiece? := by
  have hpiece : (fun piece : Text => if (!piece.isEmpty) = true then Component.ofPiece? piece
      else none) = Component.ofPiece? := by
    funext piece
    by_cases hempty : piece = []
    · simp [hempty, Component.ofPiece?]
    · simp [hempty]
  rw [components, names, List.filterMap_filter, hpiece]

/-- A joined path opens like its base. -/
theorem opening?_join {base name : Text} (hbase : base ≠ []) (hname : IsName name) :
    opening? (join base name) = opening? base := by
  have hhead : (fields '/' (join base name)).head? = (fields '/' base).head? := by
    rw [join, hname.isAbsolute_eq]
    simp only [Bool.false_eq_true, if_false]
    split
    · rename_i hend
      obtain ⟨start, rfl⟩ := List.getLast?_eq_some_iff.1 (hend.resolve_left (by simpa using hbase))
      obtain ⟨first, rest, hfields⟩ := List.exists_cons_of_ne_nil (fields_ne_nil '/' start)
      rw [List.append_assoc, List.singleton_append, fields_append_cons, fields_append_cons, hfields]
      rfl
    · obtain ⟨first, rest, hfields⟩ := List.exists_cons_of_ne_nil (fields_ne_nil '/' base)
      rw [fields_append_cons, hfields]
      rfl
  rw [opening?, opening?, hhead, isAbsolute_join hbase hname.isAbsolute_eq]

/-- A name adds itself to the components of a path. -/
theorem components_join {base name : Text} (hbase : base ≠ []) (hname : IsName name) :
    components (join base name) = components base ++ [.name name] := by
  rw [components_eq, components_eq, opening?_join hbase hname, names_join hname.isAbsolute_eq,
    names_of_not_mem hname.1 hname.2.1, List.filterMap_append, List.append_assoc]
  simp [hname.ofPiece?_eq]

theorem join_ne_nil {base name : Text} (hname : IsName name) : join base name ≠ [] := by
  rw [join, hname.isAbsolute_eq]
  simp only [Bool.false_eq_true, if_false]
  split <;> simp [hname.1]

/-- The last component of a path is its last name, if this is not made of dots. -/
theorem fileName?_of_names {path last : Text} {above : List Text}
    (h : names path = above ++ [last]) (hdot : last ≠ ['.']) (hdots : last ≠ ['.', '.']) :
    fileName? path = some last := by
  have hne : last ≠ [] := by
    have hmem : last ∈ names path := by simp [h]
    simpa using (List.mem_filter.1 hmem).2
  have hpiece : Component.ofPiece? last = some (.name last) := by
    rw [Component.ofPiece?, if_neg (by simp [hne, hdot]), if_neg hdots]
  rw [fileName?, components_eq, h, List.filterMap_append, ← List.append_assoc]
  simp [hpiece]

/-- Of two paths with different components one comes before the other. -/
theorem before_of_not_before {first second : Text} (h : before first second = false)
    (hne : components first ≠ components second) : before second first = true := by
  cases hsecond : before second first with
  | true => rfl
  | false => exact absurd (SortKey.connected h hsecond) hne

theorem mem_insertSorted {path other : Text} {sorted : List Text}
    (h : other ∈ insertSorted path sorted) : other = path ∨ other ∈ sorted := by
  induction sorted with
  | nil => exact .inl (List.mem_singleton.1 h)
  | cons first rest ih =>
    rw [insertSorted] at h
    split at h
    · rcases List.mem_cons.1 h with rfl | h
      · exact .inr List.mem_cons_self
      · exact (ih h).imp_right (List.mem_cons_of_mem first)
    · exact List.mem_cons.1 h

/-- A path is put into its place in an ascending list. -/
theorem pairwise_insertSorted {path : Text} {sorted : List Text}
    (hsorted : sorted.Pairwise fun a b => before a b = true)
    (hnot : ∀ other ∈ sorted, components other ≠ components path) :
    (insertSorted path sorted).Pairwise fun a b => before a b = true := by
  induction sorted with
  | nil => exact List.pairwise_singleton ..
  | cons first rest ih =>
    obtain ⟨hfirst, hrest⟩ := List.pairwise_cons.1 hsorted
    obtain ⟨hne, hnot⟩ := List.forall_mem_cons.1 hnot
    rw [insertSorted]
    -- The new path goes on down the list, or stops before the first that it precedes.
    by_cases hbefore : before first path = true
    · rw [if_pos hbefore]
      refine List.pairwise_cons.2 ⟨fun other hother => ?_, ih hrest hnot⟩
      rcases mem_insertSorted hother with rfl | hother
      · exact hbefore
      · exact hfirst other hother
    · rw [if_neg hbefore]
      have hpath : before path first = true :=
        before_of_not_before (by simpa using hbefore) hne
      refine List.pairwise_cons.2 ⟨fun other hother => ?_, hsorted⟩
      rcases List.mem_cons.1 hother with rfl | hother
      · exact hpath
      · exact SortKey.trans hpath (hfirst other hother)

/-- Paths with different components are sorted into ascending order. -/
theorem pairwise_sort {paths : List Text} (h : (paths.map components).Nodup) :
    (sort paths).Pairwise fun a b => before a b = true := by
  induction paths with
  | nil => exact List.Pairwise.nil
  | cons path rest ih =>
    obtain ⟨hnot, hrest⟩ := List.nodup_cons.1 h
    refine pairwise_insertSorted (ih hrest) fun other hother heq => hnot ?_
    rw [← heq]
    exact List.mem_map_of_mem ((sort_perm rest).mem_iff.1 hother)

end Path

/-! ## Names Below a Directory -/

theorem Path.components_pathBelow {names : List Text} {root : Text} (hroot : root ≠ [])
    (hnames : ∀ name ∈ names, Path.IsName name) :
    components (FileTree.pathBelow root names) = components root ++ names.map .name := by
  induction names generalizing root with
  | nil => simp [FileTree.pathBelow]
  | cons name names ih =>
    obtain ⟨hname, hnames⟩ := List.forall_mem_cons.1 hnames
    have hbelow : FileTree.pathBelow root (name :: names)
        = FileTree.pathBelow (Path.join root name) names := rfl
    rw [hbelow, ih (join_ne_nil hname) hnames, components_join hroot hname, List.append_assoc]
    rfl

namespace FileTree

variable {tree : FileTree} {root path : Text}

/-- Whether the locations of a tree are made of names. -/
structure IsWellFormed (tree : FileTree) : Prop where
  /-- The root directory is not listed. -/
  ne_root : ∀ item ∈ tree.table.entries, item.1 ≠ []
  /-- Locations are made of names. -/
  isName : ∀ item ∈ tree.table.entries, ∀ name ∈ item.1, Path.IsName name

/-- Whether each directory below a root can be read by its path, so that a search comes upon
everything that stands there. -/
def IsWalkable (tree : FileTree) (root : Text) : Prop :=
  ∀ place, tree.resolve root = .ok place → ∀ item ∈ tree.entriesBelow place.location,
    tree.isDirectory (pathBelow root item.1.dropLast) = true

/-- A file under a root, by its path and its location: the file that the root leads to, or a file
below the directory that it leads to. -/
inductive IsFileUnder (tree : FileTree) (root : Text) : Text → Location → Prop where
  /-- The root is a file. -/
  | itself {content : Content} {place : Place} (hroot : tree.lookup root = .ok (.file content))
      (hplace : tree.resolve root = .ok place) : IsFileUnder tree root root place.location
  /-- The root is a directory. -/
  | below {content : Content} {place : Place} {names : List Text}
      (hroot : tree.lookup root = .ok .directory) (hplace : tree.resolve root = .ok place)
      (hfile : tree.entryAt? (place.location ++ names) = some (.file content)) :
      IsFileUnder tree root (pathBelow root names) (place.location ++ names)

/-- A file that a search of a root comes upon: one under the root whose directory can be read by its
path. -/
inductive IsFound (tree : FileTree) (root : Text) : Text → Location → Prop where
  /-- The root is a file. -/
  | itself {content : Content} {place : Place} (hroot : tree.lookup root = .ok (.file content))
      (hplace : tree.resolve root = .ok place) : IsFound tree root root place.location
  /-- The root is a directory. -/
  | below {content : Content} {place : Place} {names : List Text}
      (hroot : tree.lookup root = .ok .directory) (hplace : tree.resolve root = .ok place)
      (hfile : tree.entryAt? (place.location ++ names) = some (.file content))
      (hreached : tree.isDirectory (pathBelow root names.dropLast) = true) :
      IsFound tree root (pathBelow root names) (place.location ++ names)

theorem below?_eq_some_iff {base location : Location} {names : List Text} :
    below? base location = some names ↔ location = base ++ names := by
  rw [below?]
  constructor
  · intro h
    split at h
    · obtain ⟨rest, rfl⟩ := List.isPrefixOf_iff_prefix.1 ‹_›
      rw [← Option.some.inj h, List.drop_left]
    · cases h
  · rintro rfl
    simp

theorem mem_entriesBelow_iff {base : Location} {item : List Text × Entry} :
    item ∈ tree.entriesBelow base ↔ (base ++ item.1, item.2) ∈ tree.table.entries := by
  obtain ⟨names, entry⟩ := item
  simp only [entriesBelow, List.mem_filterMap, Option.map_eq_some_iff, below?_eq_some_iff]
  constructor
  · rintro ⟨listed, hlisted, rest, hlocation, hitem⟩
    cases hitem
    rwa [← hlocation]
  · intro hlisted
    exact ⟨_, hlisted, names, rfl, rfl⟩

/-- A file stands somewhere if the tree lists it. -/
theorem entryAt?_eq_some_file_iff (hwell : tree.IsWellFormed) {location : Location}
    {content : Content} : tree.entryAt? location = some (.file content)
      ↔ (location, .file content) ∈ tree.table.entries := by
  rw [entryAt?, Table.mem_entries_iff]
  by_cases hempty : location = []
  · subst hempty
    constructor
    · rintro ⟨⟩
    · intro hlisted
      exact absurd rfl (hwell.ne_root _ (Table.mem_entries_iff.2 hlisted))
  · simp [hempty]

theorem IsWellFormed.isName_of_mem_entriesBelow (hwell : tree.IsWellFormed) {base : Location}
    {item : List Text × Entry} (h : item ∈ tree.entriesBelow base) :
    ∀ name ∈ item.1, Path.IsName name := by
  intro name hname
  exact hwell.isName _ (mem_entriesBelow_iff.1 h) name (List.mem_append_right base hname)

/-- The names below a directory are listed once. -/
theorem pairwise_entriesBelow (tree : FileTree) (base : Location) :
    (tree.entriesBelow base).Pairwise fun a b => a.1 ≠ b.1 := by
  refine List.Pairwise.filterMap _ (fun first second hbefore => ?_) tree.table.ascending
  simp only [Option.map_eq_some_iff, below?_eq_some_iff]
  rintro _ ⟨names, hfirst, rfl⟩ _ ⟨names', hsecond, rfl⟩ heq
  rw [hfirst, hsecond, show names = names' from heq, SortKey.irrefl] at hbefore
  cases hbefore

/-! ## What a Search Finds -/

/-- The root of a search is no empty path. -/
theorem ne_nil_of_resolve {place : Place} (h : tree.resolve path = .ok place) : path ≠ [] := by
  rintro rfl
  rcases resolve_cases h with ⟨-, hne, -⟩ | ⟨above, last, -, hnames, -⟩
  · exact hne rfl
  · exact List.concat_ne_nil _ _ (hnames.symm.trans rfl)

theorem lookup_eq_ok_iff {entry : Entry} : tree.lookup path = .ok entry
    ↔ ∃ place, tree.resolve path = .ok place ∧ tree.entryAt? place.location = some entry
      ∧ (entry ≠ .directory → place.asDirectory = false) := by
  unfold lookup
  cases hresolve : tree.resolve path with
  | error error => simp [bind, Except.bind]
  | ok place =>
    simp only [bind, Except.bind, Except.ok.injEq, exists_eq_left']
    cases hentry : tree.entryAt? place.location with
    | none => simp
    | some found =>
      cases found with
      | directory => cases entry <;> simp
      | file content => cases place.asDirectory <;> cases entry <;> simp

/-- The name of a path that leads to a file is that of the file. -/
theorem fileName?_of_lookup {content : Content} {place : Place}
    (hlookup : tree.lookup path = .ok (.file content)) (hplace : tree.resolve path = .ok place) :
    Path.fileName? path = place.location.getLast? := by
  obtain ⟨_, hresolve, -, hfile⟩ := lookup_eq_ok_iff.1 hlookup
  cases hplace.symm.trans hresolve
  rcases resolve_cases hplace with ⟨-, -, rfl⟩ | ⟨above, last, parent, hnames, -, rfl⟩
  · cases hfile nofun
  · rw [show decide (DemandsDirectory path last) = false from hfile nofun] at hplace
    obtain ⟨hdot, hdots, -⟩ := ne_dots_of_resolve hplace hnames
    rw [Path.fileName?_of_names hnames hdot hdots, Location.step_of_ne hdot hdots]
    simp

/-- The path of a file that is listed below a directory. -/
def listedPath? (root : Text) (item : List Text × Entry) : Option Text :=
  match item.2 with
  | .file _ => some (pathBelow root item.1)
  | .directory => none

theorem listedPath?_eq_some_iff {item : List Text × Entry} : listedPath? root item = some path
    ↔ ∃ content, item.2 = .file content ∧ pathBelow root item.1 = path := by
  obtain ⟨names, entry⟩ := item
  cases entry <;> simp [listedPath?]

theorem files_search_of_directory {place : Place} (hroot : tree.lookup root = .ok .directory)
    (hplace : tree.resolve root = .ok place) : (tree.search root).files
      = ((tree.entriesBelow place.location).filter fun item =>
          tree.isDirectory (pathBelow root item.1.dropLast)).filterMap (listedPath? root) := by
  rw [search, hroot, hplace]
  rfl

/-- A search finds the root if it is a file, and else the files in directories that it can read. -/
theorem mem_files_search_iff_isFound (hwell : tree.IsWellFormed) :
    path ∈ (tree.search root).files ↔ ∃ location, tree.IsFound root path location := by
  -- What is found depends on what stands at the root: nothing, a file or a directory.
  cases hroot : tree.lookup root with
  | error error =>
    have hfiles : (tree.search root).files = [] := by rw [search, hroot]
    rw [hfiles]
    constructor
    · rintro ⟨⟩
    · rintro ⟨_, hfound⟩
      cases hfound with
      | itself hlookup => cases hroot.symm.trans hlookup
      | below hlookup => cases hroot.symm.trans hlookup
  | ok entry =>
    obtain ⟨place, hplace, -⟩ := lookup_eq_ok_iff.1 hroot
    cases entry with
    | file content =>
      have hfiles : (tree.search root).files = [root] := by rw [search, hroot, hplace]
      rw [hfiles, List.mem_singleton]
      constructor
      · rintro rfl
        exact ⟨_, .itself hroot hplace⟩
      · rintro ⟨_, hfound⟩
        cases hfound with
        | itself => rfl
        | below hlookup => cases hroot.symm.trans hlookup
    | directory =>
      rw [files_search_of_directory hroot hplace, List.mem_filterMap]
      simp only [listedPath?_eq_some_iff, List.mem_filter, mem_entriesBelow_iff]
      constructor
      · rintro ⟨⟨names, entry⟩, ⟨hlisted, hreached⟩, content, rfl, rfl⟩
        exact ⟨_, .below hroot hplace ((entryAt?_eq_some_file_iff hwell).2 hlisted) hreached⟩
      · rintro ⟨_, hfound⟩
        cases hfound with
        | itself hlookup => cases hroot.symm.trans hlookup
        | below _ hresolve hfile hreached =>
          cases hplace.symm.trans hresolve
          exact ⟨(_, _), ⟨(entryAt?_eq_some_file_iff hwell).1 hfile, hreached⟩, _, rfl, rfl⟩

/-- What a search finds is under its root. -/
theorem IsFound.isFileUnder {location : Location} (h : tree.IsFound root path location) :
    tree.IsFileUnder root path location := by
  cases h with
  | itself hroot hplace => exact .itself hroot hplace
  | below hroot hplace hfile => exact .below hroot hplace hfile

/-- A walk that comes upon everything finds the files under its root. -/
theorem IsFileUnder.isFound (hwell : tree.IsWellFormed) (hwalk : tree.IsWalkable root)
    {location : Location} (h : tree.IsFileUnder root path location) :
    tree.IsFound root path location := by
  cases h with
  | itself hroot hplace => exact .itself hroot hplace
  | @below content place names hroot hplace hfile =>
    have hlisted : (names, .file content) ∈ tree.entriesBelow place.location :=
      mem_entriesBelow_iff.2 ((entryAt?_eq_some_file_iff hwell).1 hfile)
    exact .below hroot hplace hfile (hwalk place hplace _ hlisted)

/-- No two of the files that a search finds have the same components. -/
theorem pairwise_files_search (hwell : tree.IsWellFormed) :
    (tree.search root).files.Pairwise fun a b => Path.components a ≠ Path.components b := by
  cases hroot : tree.lookup root with
  | error error => simp [search, hroot]
  | ok entry =>
    obtain ⟨place, hplace, -⟩ := lookup_eq_ok_iff.1 hroot
    cases entry with
    | file content => simp [search, hroot, hplace]
    | directory =>
      rw [files_search_of_directory hroot hplace]
      refine List.Pairwise.filterMap _ ?_
        ((List.Pairwise.and_mem.1 (tree.pairwise_entriesBelow place.location)).filter _)
      rintro first second ⟨hfirst, hsecond, hne⟩ _ hpath _ hpath' heq
      obtain ⟨-, -, rfl⟩ := listedPath?_eq_some_iff.1 hpath
      obtain ⟨-, -, rfl⟩ := listedPath?_eq_some_iff.1 hpath'
      -- Different entries differ in a name, and so do their paths.
      have hnonempty := ne_nil_of_resolve hplace
      rw [Path.components_pathBelow hnonempty (hwell.isName_of_mem_entriesBelow hfirst),
        Path.components_pathBelow hnonempty (hwell.isName_of_mem_entriesBelow hsecond)] at heq
      exact hne ((List.map_inj_right (by simp)).1 (List.append_cancel_left heq))

/-- The name of the path of a file under a root is that of its location. -/
theorem IsFileUnder.exists_name {location : Location} (hwell : tree.IsWellFormed)
    (h : tree.IsFileUnder root path location) :
    ∃ name, location.getLast? = some name ∧ Path.fileName? path = some name := by
  cases h with
  | @itself content place hroot hplace =>
    rw [fileName?_of_lookup hroot hplace]
    cases hlast : place.location.getLast? with
    | some name => exact ⟨name, rfl, rfl⟩
    | none =>
      -- The root directory is no file.
      obtain ⟨_, hresolve, hentry, -⟩ := lookup_eq_ok_iff.1 hroot
      cases hplace.symm.trans hresolve
      rw [List.getLast?_eq_none_iff.1 hlast] at hentry
      cases hentry
  | @below content place names hroot hplace hfile =>
    have hisName : ∀ name ∈ names, Path.IsName name := fun name hname =>
      hwell.isName _ ((entryAt?_eq_some_file_iff hwell).1 hfile) name
        (List.mem_append_right place.location hname)
    rcases List.eq_nil_or_concat names with rfl | ⟨above, name, rfl⟩
    · -- The root leads to a directory.
      obtain ⟨_, hresolve, hentry, -⟩ := lookup_eq_ok_iff.1 hroot
      cases hplace.symm.trans hresolve
      rw [List.append_nil, hentry] at hfile
      cases hfile
    · refine ⟨name, by simp, ?_⟩
      rw [Path.fileName?, Path.components_pathBelow (ne_nil_of_resolve hplace) hisName]
      simp

end FileTree

/-! ## Info Files -/

namespace InfoFile

variable {files : FileTree} {root path : Text}

/-- Whether the name of what stands at a location is that of an info file. -/
def IsNamedInfo (location : Location) : Prop :=
  ∃ name, location.getLast? = some name ∧ fileEnding <:+ name

/-- The info files that a search finds are the files that it comes upon with the names of info
files. -/
theorem mem_filesUnder_iff_isFound (hwell : files.IsWellFormed) :
    path ∈ (filesUnder files root).value
      ↔ ∃ location, files.IsFound root path location ∧ IsNamedInfo location := by
  have hnamed : ∀ location, files.IsFound root path location →
      (isInfoPath path = true ↔ IsNamedInfo location) := by
    intro location hfound
    obtain ⟨name, hlast, hname⟩ := hfound.isFileUnder.exists_name hwell
    simp [isInfoPath, IsNamedInfo, hname, hlast]
  rw [filesUnder, (Path.sort_perm _).mem_iff, List.mem_filter,
    FileTree.mem_files_search_iff_isFound hwell, ← exists_and_right]
  exact exists_congr fun location => and_congr_right (hnamed location)

/-- In a walk that comes upon everything these are all info files under the root. -/
theorem mem_filesUnder_iff (hwell : files.IsWellFormed) (hwalk : files.IsWalkable root) :
    path ∈ (filesUnder files root).value
      ↔ ∃ location, files.IsFileUnder root path location ∧ IsNamedInfo location := by
  rw [mem_filesUnder_iff_isFound hwell]
  exact exists_congr fun location =>
    and_congr_left' ⟨FileTree.IsFound.isFileUnder, FileTree.IsFileUnder.isFound hwell hwalk⟩

/-- The info files are found in ascending order. -/
theorem pairwise_filesUnder (hwell : files.IsWellFormed) :
    (filesUnder files root).value.Pairwise fun a b => Path.before a b = true := by
  refine Path.pairwise_sort (List.pairwise_map.2 ?_)
  exact (FileTree.pairwise_files_search hwell).filter _

end InfoFile

end MaterialNode
