import MaterialNode.Text

/-!
# Cutting Text at a Delimiter

A delimiter cuts a text at its first occurrence; every field of a shader line is read by
such cuts. The main facts are that a cut loses nothing but the delimiter, and that a cut
exists exactly when the delimiter occurs.
-/

namespace MaterialNode.Text

/-- The parts of `text` on both sides of the first occurrence of `delimiter`, if it
occurs. -/
def cut? (delimiter : Text) : Text → Option (Text × Text)
  | [] => if delimiter.isEmpty then some ([], []) else none
  | c :: rest =>
    if delimiter.isPrefixOf (c :: rest) then
      some ([], (c :: rest).drop delimiter.length)
    else (cut? delimiter rest).map fun parts => (c :: parts.1, parts.2)

/-- The part of `text` before the first `delimiter`. -/
def before? (text delimiter : Text) : Option Text := (cut? delimiter text).map (·.1)

/-- The part of `text` after the first `delimiter`. -/
def after? (text delimiter : Text) : Option Text := (cut? delimiter text).map (·.2)

/-- The part of `text` before the first `delimiter`, or all of it. -/
def upTo (text delimiter : Text) : Text := (before? text delimiter).getD text

/-- Whether `pattern` occurs in `text`. -/
def has (text pattern : Text) : Bool := (cut? pattern text).isSome

/-- The part of `text` after the last occurrence of a character. -/
def afterLast? (mark : Char) : Text → Option Text
  | [] => none
  | c :: rest =>
    match afterLast? mark rest with
    | some tail => some tail
    | none => if c = mark then some rest else none

/-- `text` with every occurrence of `pattern` replaced. Occurrences are taken from the
left and do not overlap; `skip` characters of one already replaced are passed over. -/
def replaceFrom (pattern replacement : Text) (skip : Nat) : Text → Text
  | [] => []
  | c :: rest =>
    match skip with
    | skip + 1 => replaceFrom pattern replacement skip rest
    | 0 =>
      if pattern.isPrefixOf (c :: rest) then
        replacement ++ replaceFrom pattern replacement (pattern.length - 1) rest
      else c :: replaceFrom pattern replacement 0 rest

/-- `text` with every occurrence of a non-empty `pattern` replaced, from the left. -/
def replace (text pattern replacement : Text) : Text :=
  replaceFrom pattern replacement 0 text

/-- A cut loses nothing but the delimiter. -/
theorem append_of_cut? {delimiter text left right : Text}
    (h : cut? delimiter text = some (left, right)) : left ++ delimiter ++ right = text := by
  induction text generalizing left with
  | nil =>
    simp only [cut?] at h
    split at h
    · simp_all
    · cases h
  | cons c rest ih =>
    simp only [cut?] at h
    split at h
    · rename_i hp
      obtain ⟨tail, ht⟩ := List.isPrefixOf_iff_prefix.1 hp
      simp only [Option.some.injEq, Prod.mk.injEq] at h
      obtain ⟨rfl, rfl⟩ := h
      rw [← ht]
      simp
    · obtain ⟨parts, hparts, heq⟩ := Option.map_eq_some_iff.1 h
      simp only [Prod.mk.injEq] at heq
      obtain ⟨rfl, rfl⟩ := heq
      simp [← ih hparts]

/-- A text has a pattern exactly when the pattern is a contiguous part of it. -/
theorem has_iff_infix {text pattern : Text} : has text pattern = true ↔ pattern <:+: text := by
  constructor
  · intro h
    obtain ⟨⟨left, right⟩, hcut⟩ := Option.isSome_iff_exists.1 h
    exact ⟨left, right, append_of_cut? hcut⟩
  · rintro ⟨left, right, rfl⟩
    unfold has
    induction left with
    | nil =>
      cases pattern with
      | nil => cases right <;> simp [cut?]
      | cons p ps =>
        have hp : (p :: ps).isPrefixOf (p :: (ps ++ right)) = true := by
          rw [List.isPrefixOf_iff_prefix]
          exact ⟨right, rfl⟩
        simp [cut?, hp]
    | cons c left ih =>
      simp only [List.cons_append, cut?]
      split
      · rfl
      · simpa using ih

/-- A text without a pattern has no cut at it. -/
theorem cut?_eq_none_iff {text pattern : Text} :
    cut? pattern text = none ↔ ¬ pattern <:+: text := by
  rw [← has_iff_infix, has]
  simp

end MaterialNode.Text
