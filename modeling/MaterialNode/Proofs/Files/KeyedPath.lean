import MaterialNode.Proofs.Files.Resolution

/-!
# Paths with an Ending

The path of an output is a key with an ending after it. The key may be a path itself: its folders
lead to the directory of the output, and its stem with the ending is the name of the output. The
output is in or below the directory that the key is taken from unless the folders climb out of it.

## Main definitions

* `Path.folders`, `Path.stem`: the parts of a key.
* `Location.StaysBelow`: names do not climb above the directory that they start in.

## Main results

* `Path.names_append`: the names of a key with an ending.
* `Location.isPrefix_walk`: names that do not climb out lead to places below.
* `FileTree.resolve_of_same_place`: a key with the ending of plans resolves if the key with another
  ending does, to the same place.
-/

namespace MaterialNode

open Text

/-! ## The Parts of a Key -/

namespace Path

/-- The names before the last slash of a key. -/
def folders (key : Text) : List Text := (fields '/' key).dropLast.filter fun piece => !piece.isEmpty

/-- What follows the last slash of a key. -/
def stem (key : Text) : Text := (fields '/' key).getLastD []

theorem folders_of_not_mem {key : Text} (h : '/' ∉ key) : folders key = [] := by
  rw [folders, fields_of_not_mem h]
  rfl

theorem stem_of_not_mem {key : Text} (h : '/' ∉ key) : stem key = key := by
  rw [stem, fields_of_not_mem h]
  rfl

theorem stem_append_slash {last : Text} (h : '/' ∉ last) (above : Text) :
    stem (above ++ '/' :: last) = last := by
  rw [stem, fields_append_cons, fields_of_not_mem h, List.getLastD_concat]

/-- A key is its stem, or it has a last slash with the stem after it. -/
theorem eq_stem_or (key : Text) : '/' ∉ stem key
    ∧ (key = stem key ∨ ∃ above, key = above ++ '/' :: stem key) := by
  have hsplit : '/' ∉ key ∨ ∃ above last, '/' ∉ last ∧ key = above ++ '/' :: last := by
    induction key with
    | nil => exact .inl (List.not_mem_nil)
    | cons c key ih =>
      rcases ih with hkey | ⟨above, last, hlast, rfl⟩
      · by_cases hc : c = '/'
        · exact .inr ⟨[], key, hkey, by rw [hc]; rfl⟩
        · exact .inl (List.not_mem_cons_of_ne_of_not_mem (Ne.symm hc) hkey)
      · exact .inr ⟨c :: above, last, hlast, rfl⟩
  rcases hsplit with hkey | ⟨above, last, hlast, rfl⟩
  · rw [stem_of_not_mem hkey]
    exact ⟨hkey, .inl rfl⟩
  · rw [stem_append_slash hlast]
    exact ⟨hlast, .inr ⟨above, rfl⟩⟩

/-- An ending goes on from the stem of a key. -/
theorem names_append (key ending : Text) :
    names (key ++ ending) = folders key ++ names (stem key ++ ending) := by
  obtain ⟨hstem, hkey | ⟨above, hkey⟩⟩ := eq_stem_or key
  · rw [← hkey, folders_of_not_mem (hkey ▸ hstem), List.nil_append]
  · have hfolders : folders key = names above := by
      rw [hkey, folders, fields_append_cons, fields_of_not_mem hstem, List.dropLast_concat, names]
    rw [hfolders, ← names_append_slash]
    congr 1
    rw [← List.cons_append, ← List.append_assoc, ← hkey]

/-- A key with an ending that has no slash has one name after its folders. -/
theorem names_append_of_not_mem (key : Text) {ending : Text} (hne : ending ≠ [])
    (hending : '/' ∉ ending) : names (key ++ ending) = folders key ++ [stem key ++ ending] := by
  have hstem : '/' ∉ stem key ++ ending := by simp [(eq_stem_or key).1, hending]
  rw [names_append, names_of_not_mem (by simp [hne]) hstem]

/-- The last name of a path that does not end in a slash is its stem. -/
theorem eq_stem_of_names {path last : Text} {above : List Text}
    (hnames : names path = above ++ [last]) (hend : path.getLast? ≠ some '/') :
    last = stem path := by
  obtain ⟨hstem, hpath⟩ := eq_stem_or path
  have hne : stem path ≠ [] := by
    intro hempty
    rw [hempty] at hpath
    rcases hpath with rfl | ⟨above, rfl⟩
    · exact List.concat_ne_nil _ _ hnames.symm
    · exact hend List.getLast?_concat
  have hpathNames : names path = folders path ++ [stem path] := by
    have happend := names_append path []
    rwa [List.append_nil, List.append_nil, names_of_not_mem hne hstem] at happend
  exact List.singleton_inj.1 (List.append_inj' (hnames.symm.trans hpathNames) rfl).2

theorem stem_isSuffix (path : Text) : stem path <:+ path := by
  obtain ⟨-, hpath | ⟨above, hpath⟩⟩ := eq_stem_or path
  · exact ⟨[], hpath.symm⟩
  · exact ⟨above ++ ['/'], by rw [List.append_assoc]; exact hpath.symm⟩

/-- A key with an ending that starts with a dot has a name after its folders. -/
theorem exists_names_append_dot (key ending : Text) :
    ∃ above last, names (stem key ++ '.' :: ending) = above ++ [last] := by
  rcases List.eq_nil_or_concat (names (stem key ++ '.' :: ending)) with
    hnames | ⟨above, last, hnames⟩
  · -- A path without names starts with a slash, which neither the stem nor the ending does.
    have habsolute := isAbsolute_of_names (by simp) hnames
    have hstem := (eq_stem_or key).1
    cases hkey : stem key with
    | nil =>
      rw [hkey] at habsolute
      cases habsolute
    | cons c rest =>
      rw [hkey] at habsolute hstem
      simp [isAbsolute] at habsolute
      exact absurd (by simp [habsolute]) hstem
  · exact ⟨above, last, by rw [hnames, List.concat_eq_append]⟩

/-- An ending with a dot does not decide where a path starts. -/
theorem isAbsolute_append_dot (key ending : Text) :
    isAbsolute (key ++ '.' :: ending) = isAbsolute key := by
  cases key <;> rfl

end Path

/-! ## Staying Below -/

namespace Location

/-- Whether names that start a number of directories down never climb above the start. -/
def StaysBelow : Nat → List Text → Prop
  | _, [] => True
  | depth, name :: names =>
    if name = ['.'] then StaysBelow depth names
    else if name = ['.', '.'] then 0 < depth ∧ StaysBelow (depth - 1) names
    else StaysBelow (depth + 1) names

/-- Names that stay below a directory lead to a place in or below it. -/
theorem isPrefix_walk {below : Location} {names : List Text} (h : StaysBelow below.length names)
    (base : Location) : base <+: walk (base ++ below) names := by
  induction names generalizing below with
  | nil => exact List.prefix_append base below
  | cons name names ih =>
    show base <+: walk (step (base ++ below) name) names
    rw [StaysBelow] at h
    rw [step]
    by_cases hdot : name = ['.']
    · rw [if_pos hdot] at h ⊢
      exact ih h
    rw [if_neg hdot] at h ⊢
    by_cases hdots : name = ['.', '.']
    · -- One directory up is still below the base, since the names have come down before.
      rw [if_pos hdots] at h ⊢
      have hne : below ≠ [] := List.length_pos_iff.1 h.1
      rw [List.dropLast_append_of_ne_nil hne]
      apply ih
      rw [List.length_dropLast]
      exact h.2
    · rw [if_neg hdots] at h ⊢
      rw [List.append_assoc]
      apply ih
      rwa [List.length_append]

end Location

/-- Where a key with an ending leads that has no slash. -/
theorem Location.ofPath_append_dot {key ending : Text} (hslash : '/' ∉ ending)
    (workDir : Location) : ofPath workDir (key ++ '.' :: ending)
      = step (walk (origin workDir key) (Path.folders key)) (Path.stem key ++ '.' :: ending) := by
  have hending : '/' ∉ '.' :: ending := List.not_mem_cons_of_ne_of_not_mem (by decide) hslash
  rw [ofPath, Path.names_append_of_not_mem key (List.cons_ne_nil _ _) hending, walk_concat, origin,
    Path.isAbsolute_append_dot]
  rfl

/-- A key that is joined to a base goes on from there with its ending. -/
theorem Path.join_append_dot (base key ending : Text) :
    join base (key ++ '.' :: ending) = join base key ++ '.' :: ending := by
  unfold join
  rw [isAbsolute_append_dot]
  split
  · rfl
  · split <;> simp

/-- The names of a joined key end in its stem with the ending. -/
theorem Path.exists_names_join_append_dot {ending : Text} (hslash : '/' ∉ ending)
    (base key : Text) : ∃ above,
      names (join base (key ++ '.' :: ending)) = above ++ [stem key ++ '.' :: ending] := by
  have hending : '/' ∉ '.' :: ending := List.not_mem_cons_of_ne_of_not_mem (by decide) hslash
  have hnames := names_append_of_not_mem key (List.cons_ne_nil _ _) hending
  cases habsolute : isAbsolute (key ++ '.' :: ending) with
  | true => exact ⟨folders key, by rw [join, if_pos habsolute, hnames]⟩
  | false =>
    refine ⟨names base ++ folders key, ?_⟩
    rw [names_join habsolute, hnames, List.append_assoc]

/-- A joined key leads to its stem with the ending, in the directory that its folders lead to from
the base. -/
theorem Location.ofPath_join_append_dot {ending : Text} (hslash : '/' ∉ ending)
    (workDir : Location) (base key : Text) :
    ofPath workDir (Path.join base (key ++ '.' :: ending))
      = step (walk (origin (ofPath workDir base) key) (Path.folders key))
        (Path.stem key ++ '.' :: ending) := by
  have hending : '/' ∉ '.' :: ending := List.not_mem_cons_of_ne_of_not_mem (by decide) hslash
  have hnames := Path.names_append_of_not_mem key (List.cons_ne_nil _ _) hending
  rw [origin, ← Path.isAbsolute_append_dot key ending]
  cases habsolute : Path.isAbsolute (key ++ '.' :: ending) with
  | true =>
    rw [Path.join, if_pos habsolute, ofPath, hnames, walk_concat, origin, if_pos habsolute]
    rfl
  | false =>
    rw [ofPath_join habsolute, hnames, walk_concat]
    rfl

/-- The name that a key has with the ending of plans is not made of dots. -/
theorem Path.stem_append_json_ne (key : Text) : stem key ++ ".json".toList ≠ ['.']
    ∧ stem key ++ ".json".toList ≠ ['.', '.'] := by
  have hlast : (stem key ++ ".json".toList).getLast? = some 'n' := by
    simp [List.getLast?_append]
  constructor
  · intro hdot
    rw [hdot] at hlast
    cases hlast
  · intro hdots
    rw [hdots] at hlast
    cases hlast

/-! ## Two Endings of One Key -/

namespace FileTree

variable {tree : FileTree}

theorem follow_of_append {first second : List Text} {start location : Location}
    (h : tree.follow start (first ++ second) = .ok location) :
    tree.follow start first = .ok (Location.walk start first) := by
  induction first generalizing start with
  | nil => rfl
  | cons name first ih =>
    obtain ⟨hdirectory, hrest⟩ := follow_cons_eq_ok_iff.1 h
    exact follow_cons_eq_ok_iff.2 ⟨hdirectory, ih hrest⟩

/-- The folders of a key are directories if the key with an ending resolves. -/
theorem follow_folders {key ending : Text} {place : Place}
    (h : tree.resolve (key ++ '.' :: ending) = .ok place) :
    tree.follow (Location.origin tree.workDir key) (Path.folders key)
      = .ok (Location.walk (Location.origin tree.workDir key) (Path.folders key)) := by
  obtain ⟨above', last', hlast⟩ := Path.exists_names_append_dot key ending
  have hnames := Path.names_append key ('.' :: ending)
  rw [hlast, ← List.append_assoc] at hnames
  rcases resolve_cases h with ⟨hnone, -⟩ | ⟨above, last, parent, hsome, hfollow, -⟩
  · exact absurd (hnames.symm.trans hnone) (List.concat_ne_nil _ _)
  · rw [(List.append_inj' (hsome.symm.trans hnames) rfl).1, Location.origin,
      Path.isAbsolute_append_dot] at hfollow
    exact follow_of_append hfollow

/-- The last name of a key with an ending comes after the last slash of the key. -/
theorem exists_isSuffix_of_resolve {key ending : Text} {location : Location}
    (h : tree.resolve (key ++ '.' :: ending) = .ok ⟨location, false⟩) :
    ∃ above last, location = above ++ [last] ∧ last <:+ Path.stem key ++ '.' :: ending := by
  rcases resolve_cases h with ⟨-, -, hroot⟩ | ⟨above, last, parent, hnames, -, hplace⟩
  · cases hroot
  obtain ⟨hdot, hdots, hend⟩ := ne_dots_of_resolve h hnames
  refine ⟨parent, last, by rw [(Place.mk.inj hplace).1, Location.step_of_ne hdot hdots], ?_⟩
  obtain ⟨above', last', hlast⟩ := Path.exists_names_append_dot key ending
  have hstemEnd : (Path.stem key ++ '.' :: ending).getLast? ≠ some '/' := by
    rwa [List.getLast?_append, List.getLast?_cons] at hend ⊢
  have hsame : last = last' := by
    rw [Path.names_append, hlast, ← List.append_assoc] at hnames
    exact (List.singleton_inj.1 (List.append_inj' hnames rfl).2).symm
  rw [hsame, Path.eq_stem_of_names hlast hstemEnd]
  exact Path.stem_isSuffix _

/-- A key with the ending of plans resolves if the key with another ending does, to the same place. -/
theorem resolve_of_same_place {key ending : Text} {location : Location}
    (hresolve : tree.resolve (key ++ '.' :: ending) = .ok ⟨location, false⟩)
    (hplace : Location.ofPath tree.workDir (key ++ ".json".toList) = location) :
    tree.resolve (key ++ ".json".toList) = .ok ⟨location, false⟩ := by
  have hnames : Path.names (key ++ ".json".toList)
      = Path.folders key ++ [Path.stem key ++ ".json".toList] :=
    Path.names_append_of_not_mem key (by decide) (by decide)
  obtain ⟨hdot, hdots⟩ := Path.stem_append_json_ne key
  have hjson : location = Location.walk (Location.origin tree.workDir key) (Path.folders key)
      ++ [Path.stem key ++ ".json".toList] := by
    rw [← hplace]
    exact (Location.ofPath_append_dot (by decide) _).trans (Location.step_of_ne hdot hdots _)
  have hadmissible : IsAdmissible (key ++ ".json".toList) := by
    obtain ⟨hzero, hbytes⟩ := isAdmissible_of_resolve hresolve
    -- The name that both paths end in is no longer than what follows the folders of the first.
    obtain ⟨above, last, hlocation, before, hsuffix⟩ := exists_isSuffix_of_resolve hresolve
    obtain rfl : last = Path.stem key ++ ".json".toList :=
      List.singleton_inj.1 (List.append_inj' (hlocation.symm.trans hjson) rfl).2
    have hshorter := congrArg byteLength hsuffix
    simp only [byteLength_append] at hshorter hbytes
    constructor
    · simp_all
    · rw [byteLength_append]
      omega
  have hdemands : ¬ DemandsDirectory (key ++ ".json".toList) (Path.stem key ++ ".json".toList) := by
    rintro (hlast | hlast | hend)
    · exact hdot hlast
    · exact hdots hlast
    · simp [List.getLast?_append] at hend
  rw [resolve_of_names hadmissible hnames, hjson]
  have horigin : Location.origin tree.workDir (key ++ ".json".toList)
      = Location.origin tree.workDir key := by
    rw [Location.origin, Location.origin]
    rw [show Path.isAbsolute (key ++ ".json".toList) = _ from Path.isAbsolute_append_dot key _]
  rw [horigin, follow_folders hresolve, decide_eq_false hdemands, ← Location.step_of_ne hdot hdots]
  rfl

end FileTree

end MaterialNode
