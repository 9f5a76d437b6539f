import MaterialNode.Proofs.Files.Hierarchy
import MaterialNode.Proofs.Files.Parent

/-!
# Creating Directories Again

A directory that was created with those above it is there when it is to be created again, and
nothing changes. A creation that failed left directories behind, up to the one that it failed at.
The next one fails there as well, and adds nothing. It may meet a file from further down, as a name
on the way, that the first one met as what it was to create.

## Main definitions

* `FileError.Repeats`: the fault of a creation and of its repetition.

## Main results

* `FileTree.createDirectories_of_eq_ok`: directories that were created are not created again.
* `FileTree.exists_createDirectories_eq_error`: a creation that failed fails again.
-/

namespace MaterialNode

namespace FileError

/-- What a path stops at where a directory could not be created: the same fault, or that a file on
the way is no directory, if the file stood where the directory was to be created. -/
def Stops (error fault : FileError) : Prop :=
  fault = error ∨ error = .alreadyExists ∧ fault = .notDirectory

/-- What a creation of directories fails with when it is repeated: the same fault, unless the path
climbs by two dots. It may come to the file that was in the way from further down then. -/
def Repeats (path : Text) (error fault : FileError) : Prop :=
  fault = error ∨ error = .alreadyExists ∧ fault = .notDirectory ∧ ['.', '.'] ∈ Path.names path

end FileError

namespace FileTree

variable {tree after : FileTree} {path : Text}

/-! ## Directories that Exist -/

theorem isDirectory_iff : tree.isDirectory path = true
    ↔ ∃ place, tree.resolve path = .ok place
      ∧ tree.entryAt? place.location = some .directory := by
  rw [isDirectory]
  constructor
  · intro h
    split at h
    · obtain ⟨place, hresolve, hentry, -⟩ := lookup_eq_ok_iff.1 ‹_›
      exact ⟨place, hresolve, hentry⟩
    · cases h
  · rintro ⟨place, hresolve, hentry⟩
    rw [lookup_eq_ok_iff.2 ⟨place, hresolve, hentry, nofun⟩]

/-- A directory that exists is not created again. -/
theorem createDirectory_of_isDirectory (h : tree.isDirectory path = true) :
    tree.createDirectory path = .error .alreadyExists := by
  obtain ⟨place, hresolve, hentry⟩ := isDirectory_iff.1 h
  unfold createDirectory
  rw [hresolve]
  simp only [bind, Except.bind]
  rw [hentry]

theorem isDirectory_of_createDirectory (h : tree.createDirectory path = .ok after) :
    after.isDirectory path = true := by
  have hadds := AddsDirectories.of_createDirectory h
  obtain ⟨place, hresolve, hentry, -, rfl⟩ := createDirectory_eq_ok_iff.1 h
  have hne : place.location ≠ [] := by
    intro hroot
    rw [hroot] at hentry
    cases hentry
  refine isDirectory_iff.2 ⟨place, ?_, ?_⟩
  · exact resolve_of_directories hadds.workDir_eq
      (fun location => hadds.entryAt?_eq_some location _) hresolve
  · rw [entryAt?_put _ _ _ _ hne, if_pos rfl]

/-- A directory that is created with those above it exists, unless its path is empty. -/
theorem isDirectory_of_createDirectoriesWith {fuel : Nat}
    (h : tree.createDirectoriesWith fuel path = (.ok (), after)) :
    path = [] ∨ after.isDirectory path = true := by
  -- A path that is not created is looked at, and only passes if it is a directory.
  have hchecked : ∀ {tree : FileTree} {error : FileError},
      (if tree.isDirectory path then (.ok () : Except FileError Unit) else .error error, tree)
        = (.ok (), after) → after.isDirectory path = true := by
    intro tree error heq
    obtain ⟨hresult, rfl⟩ := Prod.mk.inj heq
    split at hresult
    · assumption
    · cases hresult
  unfold createDirectoriesWith at h
  split at h
  · exact .inl (by simpa using ‹path.isEmpty = true›)
  right
  split at h
  · obtain ⟨-, rfl⟩ := Prod.mk.inj h
    exact isDirectory_of_createDirectory ‹_›
  · split at h
    · split at h
      · cases h
      · split at h
        · obtain ⟨-, rfl⟩ := Prod.mk.inj h
          exact isDirectory_of_createDirectory ‹_›
        · exact hchecked h
    · cases h
  · exact hchecked h

/-- Directories that exist are not created again. -/
theorem createDirectoriesWith_of_isDirectory (fuel : Nat)
    (h : path = [] ∨ tree.isDirectory path = true) :
    tree.createDirectoriesWith fuel path = (.ok (), tree) := by
  unfold createDirectoriesWith
  by_cases hne : path = []
  · rw [if_pos (by simp [hne])]
  · have hdirectory := h.resolve_left hne
    rw [if_neg (by simpa using hne), createDirectory_of_isDirectory hdirectory]
    simp only [hdirectory, if_true]

/-- Directories that were created are not created again as long as the last one is there. -/
theorem createDirectories_of_eq_ok {later : FileTree}
    (h : tree.createDirectories path = (.ok (), after))
    (hlater : after.isDirectory path = true → later.isDirectory path = true) :
    later.createDirectories path = (.ok (), later) :=
  createDirectoriesWith_of_isDirectory _ ((isDirectory_of_createDirectoriesWith h).imp_right hlater)

/-! ## Where a Creation Fails -/

/-- A directory that cannot be created, and does not exist, is not reached by its path either. -/
theorem exists_follow_eq_error (h : tree.IsHierarchy) (hpath : IsAdmissible path) (hne : path ≠ [])
    (hdirectory : ¬ tree.isDirectory path = true) {error : FileError}
    (hcreate : tree.createDirectory path = .error error) :
    ∃ fault, error.Stops fault
      ∧ tree.follow (Location.origin tree.workDir path) (Path.names path) = .error fault := by
  have hnames : Path.names path ≠ [] := fun hnone =>
    hdirectory (isDirectory_iff.2 ⟨_, resolve_of_no_names hpath hne hnone, rfl⟩)
  obtain ⟨above, last, hconcat⟩ : ∃ above last, Path.names path = above ++ [last] := by
    simpa using (List.eq_nil_or_concat _).resolve_left hnames
  have hresolve : tree.resolve path = _ := resolve_of_names hpath hconcat
  rw [hconcat, follow_append]
  unfold createDirectory at hcreate
  cases hfollow : tree.follow (Location.origin tree.workDir path) above with
  | error fault =>
    rw [hresolve, hfollow] at hcreate
    exact ⟨fault, .inl (Except.error.inj hcreate), rfl⟩
  | ok parent =>
    rw [hfollow] at hresolve
    rw [hresolve] at hcreate
    have hplace : tree.entryAt? (Location.step parent last) ≠ some .directory := fun hentry =>
      hdirectory (isDirectory_iff.2 ⟨_, hresolve, hentry⟩)
    -- Dots lead from the directory to a directory, so the last name is not made of dots.
    have hparent := h.follow_eq (h.origin_eq path) hfollow
    have hdot : last ≠ ['.'] := fun hdot => hplace (h.step_eq hparent (.inl hdot))
    have hdots : last ≠ ['.', '.'] := fun hdots => hplace (h.step_eq hparent (.inr hdots))
    rw [Location.step_of_ne hdot hdots] at hplace
    simp only [Except.map, bind, Except.bind, Location.step_of_ne hdot hdots] at hcreate ⊢
    rw [follow, if_neg hdot, if_neg hdots]
    cases hentry : tree.entryAt? (parent ++ [last]) with
    | none =>
      -- Nothing stands there and nothing was created, so nothing can stand there.
      rw [hentry] at hcreate
      by_cases hlong : isTooLong (parent ++ [last]) = true
      · simp only [hlong, if_true, Except.error.injEq] at hcreate
        exact ⟨_, .inl (by rw [absence, if_pos hlong, hcreate]), rfl⟩
      · simp [hlong, pure, Except.pure] at hcreate
    | some entry =>
      rw [hentry] at hcreate
      cases entry with
      | directory => exact absurd hentry hplace
      | file content => exact ⟨_, .inr ⟨(Except.error.inj hcreate).symm, rfl⟩, rfl⟩

/-- A path that admits a longer one admits its first part. -/
theorem IsAdmissible.of_isPrefix {first second : Text} (h : IsAdmissible second)
    (hpart : first <+: second) : IsAdmissible first := by
  obtain ⟨rest, rfl⟩ := hpart
  obtain ⟨hzero, hlength⟩ := h
  simp only [List.contains_append, Bool.or_eq_false_iff] at hzero
  rw [Text.byteLength_append] at hlength
  exact ⟨hzero.1, by omega⟩

theorem isAdmissible_of_createDirectory (h : tree.createDirectory path = .error .notFound) :
    IsAdmissible path := by
  unfold createDirectory resolve at h
  simp only at h
  split at h
  · cases h
  split at h
  · cases h
  · exact ⟨by simpa using ‹¬ path.contains '\x00' = true›, by omega⟩

theorem resolve_of_createDirectory {error : FileError}
    (hresolve : tree.resolve path = .error error) : tree.createDirectory path = .error error := by
  rw [createDirectory, hresolve]
  rfl

/-- What the last check of a creation fails with. -/
theorem not_isDirectory_of_check {error fault : FileError}
    (h : (if tree.isDirectory path then (.ok () : Except FileError Unit) else .error fault, tree)
      = (.error error, after)) : ¬ tree.isDirectory path = true ∧ fault = error ∧ tree = after := by
  obtain ⟨hresult, rfl⟩ := Prod.mk.inj h
  split at hresult
  · cases hresult
  · exact ⟨‹_›, Except.error.inj hresult, rfl⟩

section Parent

variable {parent : Text} {fault : FileError}

/-- Where the path above another is not reached, neither is the path. -/
theorem follow_of_parent? (h : Path.parent? path = some parent)
    (hfollow : tree.follow (Location.origin tree.workDir parent) (Path.names parent)
      = .error fault) :
    tree.follow (Location.origin tree.workDir path) (Path.names path) = .error fault := by
  obtain ⟨-, habsolute, rest, -, hnames⟩ := Path.names_of_parent? h
  rw [Location.origin, habsolute] at hfollow
  rw [hnames, follow_append, Location.origin, hfollow]
  rfl

/-- It does not resolve, since the path above it ends before its last name. -/
theorem resolve_of_parent? (h : Path.parent? path = some parent) (hpath : IsAdmissible path)
    (hfollow : tree.follow (Location.origin tree.workDir parent) (Path.names parent)
      = .error fault) : tree.resolve path = .error fault := by
  obtain ⟨-, habsolute, rest, hrest, hnames⟩ := Path.names_of_parent? h
  obtain ⟨between, last, rfl⟩ : ∃ between last, rest = between ++ [last] := by
    simpa using (List.eq_nil_or_concat _).resolve_left hrest
  rw [← List.append_assoc] at hnames
  rw [Location.origin, habsolute] at hfollow
  rw [resolve_of_names hpath hnames, follow_append, Location.origin, hfollow]
  rfl

end Parent

/-- Where a creation with the directories above failed, the path is not reached. -/
theorem exists_follow_eq_error_of_createDirectoriesWith (fuel : Nat) {error : FileError}
    (h : tree.IsHierarchy) (hpath : IsAdmissible path)
    (hcreate : tree.createDirectoriesWith fuel path = (.error error, after)) :
    ∃ fault, error.Stops fault
      ∧ after.follow (Location.origin after.workDir path) (Path.names path) = .error fault := by
  have hkeeps := h.createDirectoriesWith
  fun_induction createDirectoriesWith fuel tree path with
  | case1 => cases hcreate
  | case2 => cases hcreate
  -- The path above fails, and its names come first.
  | case3 path hne hmissing fuel parent hparent error' between habove ih =>
    rw [habove] at ih
    obtain ⟨fault, hstops, hfollow⟩ :=
      ih (hpath.of_isPrefix (Path.names_of_parent? hparent).1) hcreate
    exact ⟨fault, hstops, follow_of_parent? hparent hfollow⟩
  | case4 => cases hcreate
  -- The path above was created, and the path is tried again in that tree.
  | case5 path hne hmissing fuel parent hparent _ between habove error' hfails =>
    obtain ⟨hdirectory, rfl, rfl⟩ := not_isDirectory_of_check hcreate
    have hbetween := hkeeps fuel parent
    rw [habove] at hbetween
    exact exists_follow_eq_error hbetween hpath (by simpa using hne) hdirectory hfails
  | case6 _ path hne hmissing =>
    cases hcreate
    refine exists_follow_eq_error h hpath (by simpa using hne) (fun hdirectory => ?_) hmissing
    cases hmissing.symm.trans (createDirectory_of_isDirectory hdirectory)
  | case7 _ path hne error' _ hfails =>
    obtain ⟨hdirectory, rfl, rfl⟩ := not_isDirectory_of_check hcreate
    exact exists_follow_eq_error h hpath (by simpa using hne) hdirectory hfails

/-! ## Files in the Way -/

theorem follow_ne_alreadyExists (names : List Text) (start : Location) :
    tree.follow start names ≠ .error .alreadyExists := by
  intro h
  induction names generalizing start with
  | nil => cases h
  | cons name names ih =>
    rw [follow] at h
    -- A walk only fails on absences and on files.
    split at h
    · exact ih start h
    split at h
    · exact ih start.dropLast h
    split at h
    · rw [absence] at h
      split at h <;> cases h
    · cases h
    · exact ih _ h

/-- Names that do not climb stop at a file that stands below their start. -/
theorem exists_hasFile_of_follow {names : List Text} {start : Location}
    (hclimbs : ['.', '.'] ∉ names) (h : tree.follow start names = .error .notDirectory) :
    ∃ below, below ≠ [] ∧ tree.HasFile (start ++ below) := by
  -- Without climbs each step goes down, so that the file is below the start.
  induction names generalizing start with
  | nil => cases h
  | cons name names ih =>
    rw [List.mem_cons, not_or] at hclimbs
    rw [follow] at h
    by_cases hdot : name = ['.']
    · rw [if_pos hdot] at h
      exact ih hclimbs.2 h
    rw [if_neg hdot, if_neg (Ne.symm hclimbs.1)] at h
    split at h
    · rw [absence] at h
      split at h <;> cases h
    · exact ⟨[name], List.cons_ne_nil _ _, _, ‹_›⟩
    · obtain ⟨below, -, hfile⟩ := ih hclimbs.2 h
      exact ⟨name :: below, List.cons_ne_nil _ _, by rwa [List.append_assoc] at hfile⟩

/-- What stands below a location stands in directories. -/
theorem IsHierarchy.directory_of_append (h : tree.IsHierarchy) {location below : Location}
    {entry : Entry} (hbelow : below ≠ [])
    (hentry : tree.entryAt? (location ++ below) = some entry) :
    tree.entryAt? location = some .directory := by
  induction below generalizing location with
  | nil => exact absurd rfl hbelow
  | cons name below ih =>
    have hstands : ∃ entry, tree.entryAt? (location ++ [name]) = some entry := by
      by_cases hempty : below = []
      · exact ⟨entry, hempty ▸ hentry⟩
      · exact ⟨_, ih hempty (by rwa [List.append_assoc])⟩
    obtain ⟨_, hstands⟩ := hstands
    have hparent := h.dropLast_eq hstands
    rwa [List.dropLast_concat] at hparent

/-- A file that stops names that do not climb stopped them before directories were added. -/
theorem follow_of_addsDirectories (h : tree.IsHierarchy) (hadds : AddsDirectories tree after)
    {names : List Text} {start : Location} (hclimbs : ['.', '.'] ∉ names)
    (hfollow : after.follow start names = .error .notDirectory) :
    tree.follow start names = .error .notDirectory := by
  induction names generalizing start with
  | nil => cases hfollow
  | cons name names ih =>
    rw [List.mem_cons, not_or] at hclimbs
    rw [follow] at hfollow ⊢
    by_cases hdot : name = ['.']
    · rw [if_pos hdot] at hfollow ⊢
      exact ih hclimbs.2 hfollow
    rw [if_neg hdot, if_neg (Ne.symm hclimbs.1)] at hfollow ⊢
    cases hentry : after.entryAt? (start ++ [name]) with
    | none =>
      rw [hentry] at hfollow
      simp only [absence] at hfollow
      split at hfollow <;> cases hfollow
    | some entry =>
      rw [hentry] at hfollow
      cases entry with
      | file content => rw [hadds.file_iff.1 hentry]
      | directory =>
        -- The directory was there, since the file that the names stop at stands below it.
        obtain ⟨below, hbelow, content, hfile⟩ := exists_hasFile_of_follow hclimbs.2 hfollow
        rw [h.directory_of_append hbelow (hadds.file_iff.1 hfile)]
        exact ih hclimbs.2 hfollow

/-- If a directory is in the way of a path that does not climb, as a file, it was in the way from
the start. -/
theorem follow_of_createDirectoriesWith (fuel : Nat) (h : tree.IsHierarchy)
    (hpath : IsAdmissible path) (hclimbs : ['.', '.'] ∉ Path.names path)
    (hcreate : tree.createDirectoriesWith fuel path = (.error .alreadyExists, after)) :
    tree.follow (Location.origin tree.workDir path) (Path.names path) = .error .notDirectory := by
  obtain ⟨fault, hstops, hfollow⟩ :=
    exists_follow_eq_error_of_createDirectoriesWith fuel h hpath hcreate
  have hadds := addsDirectories_createDirectoriesWith fuel tree path
  rw [hcreate] at hadds
  rw [hadds.workDir_eq] at hfollow
  rcases hstops with rfl | ⟨-, rfl⟩
  · exact absurd hfollow (follow_ne_alreadyExists _ _)
  · exact follow_of_addsDirectories h hadds hclimbs hfollow

/-! ## Failing Again -/

section Again

variable {parent : Text} {fault : FileError} {fuel : Nat}

/-- A fault other than an absence ends a creation, unless the directory exists. -/
theorem createDirectoriesWith_of_fault (fuel : Nat) (hne : ¬ path.isEmpty = true)
    (hcreate : tree.createDirectory path = .error fault) (hfault : fault ≠ .notFound)
    (hdirectory : ¬ tree.isDirectory path = true) :
    tree.createDirectoriesWith fuel path = (.error fault, tree) := by
  unfold createDirectoriesWith
  rw [if_neg hne, hcreate]
  cases fault with
  | notFound => exact absurd rfl hfault
  | _ => simp [hdirectory]

/-- An absence has the directory above created. -/
theorem createDirectoriesWith_of_notFound (hne : ¬ path.isEmpty = true)
    (hcreate : tree.createDirectory path = .error .notFound)
    (hparent : Path.parent? path = some parent)
    (habove : tree.createDirectoriesWith fuel parent = (.error fault, after)) :
    tree.createDirectoriesWith (fuel + 1) path = (.error fault, after) := by
  unfold createDirectoriesWith
  rw [if_neg hne, hcreate, hparent]
  simp only [habove]

/-- An absence remains if the directory above was there. -/
theorem createDirectoriesWith_of_notFound_of_isDirectory (hne : ¬ path.isEmpty = true)
    (hcreate : tree.createDirectory path = .error .notFound)
    (hparent : Path.parent? path = some parent)
    (habove : parent = [] ∨ tree.isDirectory parent = true)
    (hdirectory : ¬ tree.isDirectory path = true) :
    tree.createDirectoriesWith (fuel + 1) path = (.error .notFound, tree) := by
  unfold createDirectoriesWith
  rw [if_neg hne, hcreate, hparent]
  simp only [createDirectoriesWith_of_isDirectory fuel habove, hcreate]
  rw [if_neg hdirectory]

end Again

/-- A creation that failed fails again where it failed, and leaves no more behind. -/
theorem exists_createDirectoriesWith_eq_error (fuel : Nat) {error : FileError}
    (h : tree.IsHierarchy)
    (hcreate : tree.createDirectoriesWith fuel path = (.error error, after)) :
    ∃ fault, error.Repeats path fault
      ∧ after.createDirectoriesWith fuel path = (.error fault, after) := by
  fun_induction createDirectoriesWith fuel tree path with
  | case1 => cases hcreate
  | case2 => cases hcreate
  | case3 path hne hmissing fuel parent hparent error' between habove ih =>
    rw [habove] at ih
    cases hcreate
    obtain ⟨fault, hrepeats, hagain⟩ := ih rfl
    obtain ⟨hpart, -, rest, -, hnames⟩ := Path.names_of_parent? hparent
    have hpath := isAdmissible_of_createDirectory hmissing
    obtain ⟨fault', hstops, hfollow⟩ :=
      exists_follow_eq_error_of_createDirectoriesWith fuel h (hpath.of_isPrefix hpart) habove
    have hresolve := resolve_of_parent? hparent hpath hfollow
    have hcreate := resolve_of_createDirectory hresolve
    -- The path stops where the one above it stops, on an absence only if that one does.
    by_cases hfault : fault' = .notFound
    · rw [hfault] at hcreate
      refine ⟨fault, ?_, createDirectoriesWith_of_notFound hne hcreate hparent hagain⟩
      obtain rfl | ⟨hexists, hfile, hdots⟩ := hrepeats
      · exact .inl rfl
      · exact .inr ⟨hexists, hfile, hnames ▸ List.mem_append_left rest hdots⟩
    · refine ⟨fault', ?_, createDirectoriesWith_of_fault _ hne hcreate hfault ?_⟩
      · obtain rfl | ⟨rfl, hfile⟩ := hstops
        · exact .inl rfl
        refine .inr ⟨rfl, hfile, ?_⟩
        refine Decidable.byContradiction fun hclimbs => ?_
        -- The path would have come to the file at once, and not to an absence.
        have hclimbs' : ['.', '.'] ∉ Path.names parent := fun hdots =>
          hclimbs (hnames ▸ List.mem_append_left rest hdots)
        have hbefore := follow_of_createDirectoriesWith fuel h (hpath.of_isPrefix hpart) hclimbs'
          habove
        cases hmissing.symm.trans
          (resolve_of_createDirectory (resolve_of_parent? hparent hpath hbefore))
      · intro hdirectory
        obtain ⟨place, hplace, -⟩ := isDirectory_iff.1 hdirectory
        cases hresolve.symm.trans hplace
  | case4 => cases hcreate
  | case5 path hne hmissing fuel parent hparent _ between habove error' hfails =>
    obtain ⟨hdirectory, rfl, rfl⟩ := not_isDirectory_of_check hcreate
    refine ⟨error', .inl rfl, ?_⟩
    by_cases hfault : error' = .notFound
    · rw [hfault] at hfails ⊢
      exact createDirectoriesWith_of_notFound_of_isDirectory hne hfails hparent
        (isDirectory_of_createDirectoriesWith habove) hdirectory
    · exact createDirectoriesWith_of_fault _ hne hfails hfault hdirectory
  | case6 fuel path hne hmissing hlast =>
    cases hcreate
    refine ⟨_, .inl rfl, ?_⟩
    rw [createDirectoriesWith, if_neg hne, hmissing]
    exact hlast
  | case7 fuel path hne error' hfault hfails =>
    obtain ⟨hdirectory, rfl, rfl⟩ := not_isDirectory_of_check hcreate
    exact ⟨error', .inl rfl, createDirectoriesWith_of_fault _ hne hfails hfault hdirectory⟩

/-- A creation that failed fails again, and leaves no more behind. -/
theorem exists_createDirectories_eq_error {error : FileError} (h : tree.IsHierarchy)
    (hcreate : tree.createDirectories path = (.error error, after)) :
    ∃ fault, error.Repeats path fault ∧ after.createDirectories path = (.error fault, after) :=
  exists_createDirectoriesWith_eq_error path.length h hcreate

end FileTree

end MaterialNode
