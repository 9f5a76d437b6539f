import MaterialNode.Proofs.Files.Search

/-!
# The Path Above

The path above another is a first part of it. It starts where the path starts, and the names of the
path go on from its names, so a path whose file or directory can be reached leads through the path
above it.

## Main results

* `Path.names_of_parent?`: the names of a path start with those of the path above it.
* `Path.exists_parent?`: a path that ends in the name of a file has a path above it.
-/

namespace MaterialNode.Path

open Text

variable {path parent body : Text}

/-! ## Pieces -/

/-- The first pieces of a text, joined again, start the text and have its first names. -/
theorem names_of_fields_eq_append {kept rest : List Text} (hrest : rest ≠ [])
    (h : fields '/' body = kept ++ rest) : joinWith ['/'] kept <+: body
      ∧ names body = names (joinWith ['/'] kept) ++ rest.filter fun piece => !piece.isEmpty := by
  by_cases hkept : kept = []
  · subst hkept
    exact ⟨List.nil_prefix, congrArg (List.filter _) h⟩
  · have hfields : fields '/' (joinWith ['/'] kept) = kept :=
      fields_joinWith hkept fun piece hpiece =>
        not_mem_of_mem_fields (h ▸ List.mem_append_left rest hpiece)
    constructor
    · rw [← joinWith_fields '/' body, h, joinWith_append hkept hrest]
      exact List.prefix_append ..
    · rw [names, h, List.filter_append, names, hfields]

/-- Pieces end in those that stand for no component. -/
theorem exists_eq_dropIdle_append (pieces : List Text) : ∃ idle, pieces = dropIdle pieces ++ idle
    ∧ (∀ piece ∈ idle, Component.ofPiece? piece = none)
    ∧ ∀ last, (dropIdle pieces).getLast? = some last → Component.ofPiece? last ≠ none := by
  refine ⟨(pieces.reverse.takeWhile fun piece => (Component.ofPiece? piece).isNone).reverse,
    ?_, ?_, ?_⟩
  · rw [dropIdle, ← List.reverse_append, List.takeWhile_append_dropWhile, List.reverse_reverse]
  · intro piece hpiece
    simpa using List.all_eq_true.1 List.all_takeWhile piece (List.mem_reverse.1 hpiece)
  · intro last hlast hnone
    rw [dropIdle, List.getLast?_reverse] at hlast
    have hnot := List.head?_dropWhile_not (fun piece => (Component.ofPiece? piece).isNone)
      pieces.reverse
    rw [hlast] at hnot
    simp [hnone] at hnot

/-- The pieces above the last component come first, and a name is among those that follow. -/
theorem exists_fields_eq_append (h : dropIdle (fields '/' body) ≠ []) :
    ∃ rest, fields '/' body = dropIdle (dropIdle (fields '/' body)).dropLast ++ rest
      ∧ (rest.filter fun piece => !piece.isEmpty) ≠ [] := by
  obtain ⟨idle, hpieces, -, hlast⟩ := exists_eq_dropIdle_append (fields '/' body)
  obtain ⟨idle', habove, -, -⟩ :=
    exists_eq_dropIdle_append (dropIdle (fields '/' body)).dropLast
  obtain ⟨above, last, hconcat⟩ : ∃ above last, dropIdle (fields '/' body) = above ++ [last] := by
    simpa using (List.eq_nil_or_concat _).resolve_left h
  -- The last piece that counts is not the empty one.
  have hne : last ≠ [] := by
    rintro rfl
    exact hlast [] (by simp [hconcat]) (by simp [Component.ofPiece?])
  rw [hconcat, List.dropLast_concat] at habove ⊢
  refine ⟨idle' ++ ([last] ++ idle), ?_, ?_⟩
  · rw [← List.append_assoc, ← habove, ← List.append_assoc, ← hconcat]
    exact hpieces
  · simp [hne]

/-! ## Openings -/

theorem names_slash_cons (path : Text) : names ('/' :: path) = names path := by
  simp [names, fields]

/-- A leading dot is a name of its own. -/
theorem names_dot_cons (h : path = [] ∨ path.head? = some '/') :
    names ('.' :: path) = ['.'] :: names path := by
  rcases h with rfl | h
  · rfl
  · obtain ⟨rest, rfl⟩ := List.head?_eq_some_iff.1 h
    simp [names, fields]

/-- What follows a leading dot that is a component. -/
theorem eq_dot_cons_of_opening? (h : opening? path = some .current) :
    ∃ body, path = '.' :: body ∧ (body = [] ∨ body.head? = some '/') := by
  have hhead : (fields '/' path).head? = some ['.'] := by
    rw [opening?] at h
    split at h
    · cases h
    · split at h
      · assumption
      · cases h
  -- The first piece is the dot, so that a slash or nothing comes after it.
  cases path with
  | nil => cases hhead
  | cons c path =>
    by_cases hc : c = '/'
    · rw [fields, if_pos hc] at hhead
      cases hhead
    obtain ⟨piece, pieces, hfields⟩ := List.exists_cons_of_ne_nil (fields_ne_nil '/' path)
    rw [fields, if_neg hc, hfields] at hhead
    obtain ⟨rfl, rfl⟩ := List.cons.inj (Option.some.inj hhead)
    refine ⟨path, rfl, ?_⟩
    cases path with
    | nil => exact .inl rfl
    | cons d path =>
      by_cases hd : d = '/'
      · exact .inr (by rw [hd]; rfl)
      · -- Otherwise the dot would not be the whole first piece.
        rw [fields, if_neg hd] at hfields
        split at hfields <;> cases hfields

/-- A path is its opening and what follows, and so are the names of a first part of it. -/
theorem exists_eq_opening_append (path : Text) : ∃ start body,
    (if (opening? path).isSome then path.take 1 else []) = start
      ∧ (if (opening? path).isSome then path.drop 1 else path) = body ∧ path = start ++ body
      ∧ (start = [] → isAbsolute path = false) ∧ (∀ name ∈ names start, name = ['.'])
      ∧ ∀ text, text <+: body → names (start ++ text) = names start ++ names text := by
  -- A path opens with a slash, with a dot, or with neither.
  by_cases habsolute : isAbsolute path = true
  · obtain ⟨body, rfl⟩ := List.head?_eq_some_iff.1 (by simpa [isAbsolute] using habsolute)
    exact ⟨['/'], body, rfl, rfl, rfl, fun h => absurd h (List.cons_ne_nil _ _), by decide,
      fun text _ => names_slash_cons text⟩
  by_cases hdot : (fields '/' path).head? = some ['.']
  · have hcurrent : opening? path = some .current := by rw [opening?, if_neg habsolute, if_pos hdot]
    obtain ⟨body, rfl, hbody⟩ := eq_dot_cons_of_opening? hcurrent
    rw [hcurrent]
    refine ⟨['.'], body, rfl, rfl, rfl, fun h => absurd h (List.cons_ne_nil _ _), by decide,
      fun text htext => names_dot_cons ?_⟩
    cases text with
    | nil => exact .inl rfl
    | cons c text =>
      obtain ⟨rest, rfl⟩ := htext
      exact .inr (hbody.resolve_left (List.cons_ne_nil _ _))
  · have hnone : opening? path = none := by rw [opening?, if_neg habsolute, if_neg hdot]
    rw [hnone]
    exact ⟨[], path, rfl, rfl, rfl, fun _ => by simpa using habsolute, by decide,
      fun text _ => rfl⟩

/-! ## The Path Above -/

theorem isAbsolute_of_isPrefix {first second : Text} (h : first <+: second)
    (hsecond : isAbsolute second = false) : isAbsolute first = false := by
  obtain ⟨rest, rfl⟩ := h
  cases first with
  | nil => rfl
  | cons c first => exact hsecond

/-- The path above another is a first part of it, starts where it starts, and has its first
names. -/
theorem names_of_parent? (h : parent? path = some parent) :
    parent <+: path ∧ isAbsolute parent = isAbsolute path
      ∧ ∃ rest, rest ≠ [] ∧ names path = names parent ++ rest := by
  obtain ⟨start, body, hstart, hbody, hpath, hrelative, -, hnames⟩ := exists_eq_opening_append path
  unfold parent? at h
  simp only [hstart] at h
  cases hpieces : namePieces path with
  | nil =>
    -- Only a lone dot has a path above it without a name.
    rw [hpieces] at h
    simp only at h
    split at h
    · rename_i hcurrent
      cases h
      obtain ⟨after, rfl, hafter⟩ := eq_dot_cons_of_opening? hcurrent
      exact ⟨List.nil_prefix, rfl, _, List.cons_ne_nil _ _, names_dot_cons hafter⟩
    · cases h
  | cons piece pieces =>
    have hkept : namePieces path = dropIdle (fields '/' body) := by rw [← hbody]; rfl
    have hne : dropIdle (fields '/' body) ≠ [] := by
      rw [← hkept, hpieces]
      exact List.cons_ne_nil _ _
    have heq : parent
        = start ++ joinWith ['/'] (dropIdle (dropIdle (fields '/' body)).dropLast) := by
      rw [hpieces] at h
      rw [← hkept, hpieces]
      exact (Option.some.inj h).symm
    obtain ⟨rest, hfields, hrest⟩ := exists_fields_eq_append hne
    obtain ⟨hpart, hbodyNames⟩ :=
      names_of_fields_eq_append (fun hnil => hrest (by simp [hnil])) hfields
    have hparent : parent <+: path := by
      rw [heq, hpath]
      exact (List.prefix_append_right_inj start).2 hpart
    refine ⟨hparent, ?_, _, hrest, ?_⟩
    · cases start with
      | nil =>
        have habsolute := hrelative rfl
        rw [habsolute, isAbsolute_of_isPrefix hparent habsolute]
      | cons c start =>
        rw [heq, hpath]
        rfl
    · rw [hpath, hnames body List.prefix_rfl, hbodyNames, heq, hnames _ hpart, List.append_assoc]

/-- A path that ends in a name that is not a dot has a path above it. -/
theorem exists_parent? {above : List Text} {last : Text} (h : names path = above ++ [last])
    (hdot : last ≠ ['.']) : ∃ parent, parent? path = some parent := by
  cases hparent : parent? path with
  | some parent => exact ⟨parent, rfl⟩
  | none =>
    obtain ⟨start, body, -, hbody, hpath, -, hdots, hnames⟩ := exists_eq_opening_append path
    have hpieces : dropIdle (fields '/' body) = [] := by
      rw [← hbody]
      unfold parent? at hparent
      simp only at hparent
      split at hparent
      · assumption
      · cases hparent
    -- No piece stands for a component then, so that all names are dots.
    obtain ⟨idle, hfields, hidle, -⟩ := exists_eq_dropIdle_append (fields '/' body)
    rw [hpieces, List.nil_append] at hfields
    have hlast : last ∈ names start ++ names body := by
      rw [← hnames body List.prefix_rfl, ← hpath, h]
      simp
    refine absurd ?_ hdot
    rcases List.mem_append.1 hlast with hlast | hlast
    · exact hdots last hlast
    · obtain ⟨hmem, hne⟩ := List.mem_filter.1 hlast
      have hnone := hidle last (hfields ▸ hmem)
      rw [Component.ofPiece?] at hnone
      split at hnone
      · rename_i hcases
        exact hcases.resolve_left (by simpa using hne)
      · split at hnone <;> cases hnone

end MaterialNode.Path
