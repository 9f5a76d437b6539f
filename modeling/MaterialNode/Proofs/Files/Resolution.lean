import MaterialNode.Files.Tree
import MaterialNode.Proofs.Text.Fields

/-!
# Where Paths Lead

A path that resolves leads to the location that its names spell, `.` and `..` taken away, whatever
stands on the way. The tree only decides whether the path resolves at all, and this depends on its
directories alone.

## Main definitions

* `Location.walk`: the location that names lead to from a directory.
* `Location.ofPath`: the location that a path spells.

## Main results

* `FileTree.location_of_resolve`: a path that resolves leads to the location that it spells.
* `FileTree.resolve_of_directories`: trees with the same directories resolve the same paths.
* `FileTree.readText_eq_ok_iff`, `FileTree.writeContent_eq_ok_iff`: when a text is read and a content
  is written.
* `Location.ofPath_join`: the location of a path that is joined from two.
-/

namespace MaterialNode

open Text

/-- The names of a path, which slashes part. -/
def Path.names (path : Text) : List Text := (fields '/' path).filter fun piece => !piece.isEmpty

theorem Path.names_of_not_mem {name : Text} (hne : name ≠ []) (h : '/' ∉ name) :
    names name = [name] := by
  rw [names, fields_of_not_mem h]
  simp [hne]

theorem Path.isAbsolute_of_not_mem {name : Text} (h : '/' ∉ name) : isAbsolute name = false := by
  cases name with
  | nil => rfl
  | cons c rest => simpa [isAbsolute] using Ne.symm (List.ne_of_not_mem_cons h)

/-- A path without names is empty or made of slashes. -/
theorem Path.isAbsolute_of_names {path : Text} (hne : path ≠ []) (h : names path = []) :
    isAbsolute path = true := by
  obtain ⟨c, rest, rfl⟩ := List.exists_cons_of_ne_nil hne
  by_cases hc : c = '/'
  · rw [hc]
    rfl
  · obtain ⟨piece, pieces, hfields⟩ := List.exists_cons_of_ne_nil (fields_ne_nil '/' rest)
    rw [names, fields, if_neg hc, hfields] at h
    cases h

/-! ## Locations -/

namespace Location

/-- The location that a name leads to from a directory. -/
def step (location : Location) (name : Text) : Location :=
  if name = ['.'] then location
  else if name = ['.', '.'] then location.dropLast
  else location ++ [name]

/-- The location that names lead to from a directory. -/
def walk (location : Location) (names : List Text) : Location := names.foldl step location

/-- The directory that a path is taken from. -/
def origin (workDir : Location) (path : Text) : Location :=
  if Path.isAbsolute path then [] else workDir

/-- The location that a path spells. -/
def ofPath (workDir : Location) (path : Text) : Location :=
  walk (origin workDir path) (Path.names path)

theorem walk_append (location : Location) (first second : List Text) :
    walk location (first ++ second) = walk (walk location first) second :=
  List.foldl_append

theorem walk_concat (location : Location) (names : List Text) (last : Text) :
    walk location (names ++ [last]) = step (walk location names) last := walk_append ..

/-- A name that is not made of dots leads one directory down. -/
theorem step_of_ne {name : Text} (hdot : name ≠ ['.']) (hdots : name ≠ ['.', '.'])
    (location : Location) : step location name = location ++ [name] := by
  rw [step, if_neg hdot, if_neg hdots]

end Location

/-! ## Resolution -/

namespace FileTree

variable {tree other : FileTree} {path : Text}

/-- A name is followed through a directory that exists; dots need none. -/
theorem follow_cons_eq_ok_iff {name : Text} {names : List Text} {start location : Location} :
    tree.follow start (name :: names) = .ok location
      ↔ (name ≠ ['.'] → name ≠ ['.', '.'] → tree.entryAt? (start ++ [name]) = some .directory)
        ∧ tree.follow (Location.step start name) names = .ok location := by
  rw [follow, Location.step]
  by_cases hdot : name = ['.']
  · simp [hdot]
  by_cases hdots : name = ['.', '.']
  · simp [hdots]
  · rw [if_neg hdot, if_neg hdots, if_neg hdot, if_neg hdots]
    simp only [ne_eq, hdot, hdots, not_false_eq_true, true_imp_iff]
    split <;> simp_all

theorem location_of_follow {names : List Text} {start location : Location}
    (h : tree.follow start names = .ok location) : location = Location.walk start names := by
  induction names generalizing start with
  | nil => cases h; rfl
  | cons name names ih => exact ih (follow_cons_eq_ok_iff.1 h).2

theorem follow_append (first second : List Text) (start : Location) :
    tree.follow start (first ++ second)
      = (tree.follow start first).bind fun location => tree.follow location second := by
  induction first generalizing start with
  | nil => rfl
  | cons name first ih =>
    rw [List.cons_append, follow, follow, ih, ih, ih]
    split
    · rfl
    split
    · rfl
    split <;> rfl

/-- Names lead through the same directories in a tree that has these directories. -/
theorem follow_of_directories
    (hdirectories : ∀ location, tree.entryAt? location = some .directory →
      other.entryAt? location = some .directory)
    {names : List Text} {start location : Location}
    (h : tree.follow start names = .ok location) : other.follow start names = .ok location := by
  induction names generalizing start with
  | nil => exact h
  | cons name names ih =>
    obtain ⟨hdirectory, hrest⟩ := follow_cons_eq_ok_iff.1 h
    refine follow_cons_eq_ok_iff.2 ⟨fun hdot hdots => ?_, ih hrest⟩
    exact hdirectories _ (hdirectory hdot hdots)

/-- Whether a path demands a directory, by its last name and by its end. -/
def DemandsDirectory (path last : Text) : Prop :=
  last = ['.'] ∨ last = ['.', '.'] ∨ path.getLast? = some '/'

instance (path last : Text) : Decidable (DemandsDirectory path last) :=
  inferInstanceAs (Decidable (_ ∨ _))

/-- Whether a path is one that can be looked up at all. -/
def IsAdmissible (path : Text) : Prop :=
  path.contains '\x00' = false ∧ path.byteLength ≤ maxPathBytes

theorem isAdmissible_of_resolve {place : Place} (h : tree.resolve path = .ok place) :
    IsAdmissible path := by
  unfold resolve at h
  simp only at h
  split at h
  · cases h
  split at h
  · cases h
  · exact ⟨by simpa using ‹¬ path.contains '\x00' = true›, by omega⟩

/-- A path with names resolves if all its names but the last lead through directories. -/
theorem resolve_of_names (hpath : IsAdmissible path) {above : List Text} {last : Text}
    (hnames : Path.names path = above ++ [last]) :
    tree.resolve path = (tree.follow (Location.origin tree.workDir path) above).map fun parent =>
      ⟨Location.step parent last, decide (DemandsDirectory path last)⟩ := by
  have hfields : (fields '/' path).filter (fun piece => !piece.isEmpty) = above ++ [last] := hnames
  have horigin : (if Path.isAbsolute path then [] else tree.workDir)
      = Location.origin tree.workDir path := rfl
  unfold resolve
  simp only [hpath.1, hfields, horigin, Bool.false_eq_true, if_false, List.getLast?_concat,
    List.dropLast_concat]
  rw [if_neg (Nat.not_lt.2 hpath.2)]
  cases tree.follow (Location.origin tree.workDir path) above with
  | error error => rfl
  | ok parent =>
    unfold Location.step DemandsDirectory
    by_cases hdot : last = ['.']
    · simp [hdot, Except.map]
    by_cases hdots : last = ['.', '.']
    · simp [hdots, Except.map]
    · have hend : (path.getLast? == some '/') = decide (path.getLast? = some '/') :=
        Bool.beq_eq_decide_eq ..
      simp [hdot, hdots, Except.map, hend]

/-- A path of slashes leads to the root. -/
theorem resolve_of_no_names (hpath : IsAdmissible path) (hne : path ≠ [])
    (hnames : Path.names path = []) : tree.resolve path = .ok ⟨[], true⟩ := by
  have hfields : (fields '/' path).filter (fun piece => !piece.isEmpty) = [] := hnames
  unfold resolve
  simp only [hpath.1, hfields, Bool.false_eq_true, if_false, List.getLast?_nil]
  rw [if_neg (Nat.not_lt.2 hpath.2), if_neg (by simpa using hne)]

/-- What a path that resolves has been through. -/
theorem resolve_cases {place : Place} (h : tree.resolve path = .ok place) :
    (Path.names path = [] ∧ path ≠ [] ∧ place = ⟨[], true⟩)
      ∨ ∃ above last parent, Path.names path = above ++ [last]
        ∧ tree.follow (Location.origin tree.workDir path) above = .ok parent
        ∧ place = ⟨Location.step parent last, decide (DemandsDirectory path last)⟩ := by
  have hpath := isAdmissible_of_resolve h
  rcases List.eq_nil_or_concat (Path.names path) with hnames | ⟨above, last, hnames⟩
  · by_cases hne : path = []
    · subst hne
      cases h
    · rw [resolve_of_no_names hpath hne hnames] at h
      cases h
      exact .inl ⟨hnames, hne, rfl⟩
  · rw [List.concat_eq_append] at hnames
    rw [resolve_of_names hpath hnames] at h
    cases hfollow : tree.follow (Location.origin tree.workDir path) above with
    | error error =>
      rw [hfollow] at h
      cases h
    | ok parent =>
      rw [hfollow] at h
      cases h
      exact .inr ⟨above, last, parent, hnames, hfollow, rfl⟩

/-- A path that leads to no directory ends in a name that is not made of dots. -/
theorem ne_dots_of_resolve {location : Location} (h : tree.resolve path = .ok ⟨location, false⟩)
    {above : List Text} {last : Text} (hnames : Path.names path = above ++ [last]) :
    last ≠ ['.'] ∧ last ≠ ['.', '.'] ∧ path.getLast? ≠ some '/' := by
  rw [resolve_of_names (isAdmissible_of_resolve h) hnames] at h
  cases hfollow : tree.follow (Location.origin tree.workDir path) above with
  | error error =>
    rw [hfollow] at h
    cases h
  | ok parent =>
    rw [hfollow] at h
    have hdemands : ¬ DemandsDirectory path last :=
      of_decide_eq_false (Place.mk.inj (Except.ok.inj h)).2
    simpa [DemandsDirectory] using hdemands

/-- A path resolves to the same place in a tree with the same working directory that has the
directories on the way. -/
theorem resolve_of_directories (hworkDir : other.workDir = tree.workDir)
    (hdirectories : ∀ location, tree.entryAt? location = some .directory →
      other.entryAt? location = some .directory)
    {place : Place} (h : tree.resolve path = .ok place) : other.resolve path = .ok place := by
  have hpath := isAdmissible_of_resolve h
  rcases resolve_cases h with ⟨hnames, hne, rfl⟩ | ⟨above, last, parent, hnames, hfollow, rfl⟩
  · exact resolve_of_no_names hpath hne hnames
  · rw [resolve_of_names hpath hnames, hworkDir, follow_of_directories hdirectories hfollow]
    rfl

/-- A path that resolves leads to the location that it spells. -/
theorem location_of_resolve {place : Place} (h : tree.resolve path = .ok place) :
    place.location = Location.ofPath tree.workDir path := by
  rcases resolve_cases h with ⟨hnames, hne, rfl⟩ | ⟨above, last, parent, hnames, hfollow, rfl⟩
  · -- A path of slashes is absolute.
    rw [Location.ofPath, hnames, Location.origin, if_pos (Path.isAbsolute_of_names hne hnames)]
    rfl
  · rw [Location.ofPath, hnames, Location.walk_concat, ← location_of_follow hfollow]

/-! ## Texts -/

/-- A text is read from the file at the place that the path resolves to. -/
theorem readText_eq_ok_iff {text : Text} : tree.readText path = .ok text
    ↔ ∃ location, tree.resolve path = .ok ⟨location, false⟩
      ∧ tree.entryAt? location = some (.file (.text text)) := by
  unfold readText lookup
  cases hresolve : tree.resolve path with
  | error error => simp [bind, Except.bind]
  | ok place =>
    obtain ⟨location, asDirectory⟩ := place
    simp only [bind, Except.bind]
    cases hentry : tree.entryAt? location with
    | none => simp [hentry]
    | some entry =>
      cases entry with
      | directory => simp [hentry]
      | file content =>
        cases asDirectory with
        | true => simp
        | false => cases content <;> simp [hentry]

/-- A content is written to the place that the path resolves to, if no directory stands there or is
demanded and something can stand there. -/
theorem writeContent_eq_ok_iff {content : Content} : tree.writeContent path content = .ok other
    ↔ ∃ location, tree.resolve path = .ok ⟨location, false⟩
      ∧ tree.entryAt? location ≠ some .directory ∧ isTooLong location = false
      ∧ other = tree.put location (.file content) := by
  unfold writeContent writable
  cases hresolve : tree.resolve path with
  | error error => simp [bind, Except.bind]
  | ok place =>
    obtain ⟨location, asDirectory⟩ := place
    simp only [bind, Except.bind]
    by_cases hdirectory : asDirectory = true ∨ tree.entryAt? location = some .directory
    · rw [if_pos hdirectory]
      rcases hdirectory with rfl | hdirectory <;> simp_all
    · rw [if_neg hdirectory]
      simp only [not_or, Bool.not_eq_true] at hdirectory
      obtain ⟨rfl, hdirectory⟩ := hdirectory
      by_cases hlong : isTooLong location = true
      · simp [hlong]
      · simp [hlong, hdirectory, pure, Except.pure]
        exact eq_comm

/-- Two paths to one location that can both be read hold the same text. -/
theorem readText_congr {path' : Text} {text text' : Text} (hread : tree.readText path = .ok text)
    (hread' : tree.readText path' = .ok text')
    (hplace : Location.ofPath tree.workDir path = Location.ofPath tree.workDir path') :
    text = text' := by
  obtain ⟨location, hresolve, hentry⟩ := readText_eq_ok_iff.1 hread
  obtain ⟨location', hresolve', hentry'⟩ := readText_eq_ok_iff.1 hread'
  rw [← location_of_resolve hresolve, ← location_of_resolve hresolve'] at hplace
  obtain rfl : location = location' := hplace
  rw [hentry] at hentry'
  cases hentry'
  rfl

end FileTree

/-! ## Joined Paths -/

namespace Path

variable {base name : Text}

theorem names_append_slash (left right : Text) :
    names (left ++ '/' :: right) = names left ++ names right := by
  rw [names, fields_append_cons, List.filter_append]
  rfl

/-- The names of a joined path are those of its parts. -/
theorem names_join (h : isAbsolute name = false) :
    names (join base name) = names base ++ names name := by
  rw [join, h]
  simp only [Bool.false_eq_true, if_false]
  by_cases hempty : base = []
  · subst hempty
    rfl
  by_cases hslash : base.getLast? = some '/'
  · -- A slash at the end of the base parts the names by itself.
    obtain ⟨start, rfl⟩ := List.getLast?_eq_some_iff.1 hslash
    rw [if_pos (.inr hslash), List.append_assoc, List.singleton_append, names_append_slash,
      names_append_slash]
    simp [names, fields]
  · rw [if_neg (by simp [hempty, hslash]), names_append_slash]

theorem isAbsolute_join (hne : base ≠ []) (h : isAbsolute name = false) :
    isAbsolute (join base name) = isAbsolute base := by
  obtain ⟨c, rest, rfl⟩ := List.exists_cons_of_ne_nil hne
  rw [join, h]
  simp only [Bool.false_eq_true, if_false]
  split <;> rfl

end Path

/-- A joined path leads from the location of the base along the names of the second part. -/
theorem Location.ofPath_join {base name : Text} (h : Path.isAbsolute name = false)
    (workDir : Location) :
    ofPath workDir (Path.join base name) = walk (ofPath workDir base) (Path.names name) := by
  rw [ofPath, Path.names_join h, walk_append, ofPath]
  by_cases hempty : base = []
  · -- The empty base stands for the working directory.
    subst hempty
    have hjoin : Path.join [] name = name := by
      rw [Path.join, h]
      rfl
    rw [hjoin, origin, origin, h]
    rfl
  · rw [origin, Path.isAbsolute_join hempty h]
    rfl

end MaterialNode
