import MaterialNode.Text.Blank
import MaterialNode.Text.Cut

/-!
# Where a Delimiter is Found

A line is made of free pieces between fixed characters. The facts below carry the search for
a delimiter over one such piece at a time:

- `cut?_append`: a delimiter whose first character a piece lacks is not found in that piece;
- `cut?_append_cons`: a delimiter that neither occurs in a piece nor holds the character after
  it is found past both;
- `cut?_cons_append`: a delimiter of at least two characters is not found at a word that goes on
  with another letter than the delimiter.

Together with the evaluation of `cut?` at fixed characters they read a rendered line from left
to right.
-/

namespace MaterialNode.Text

variable {c : Char} {pattern left right word : Text}

/-! ## Occurrence -/

/-- A pattern that lacks a character and starts a text that goes on with this character starts
the part before it. -/
theorem prefix_of_prefix_append_cons (left : Text) (hc : c ∉ pattern)
    (h : pattern <+: left ++ c :: right) : pattern <+: left := by
  rcases List.prefix_or_prefix_of_prefix h (List.prefix_append left (c :: right)) with h' | h'
  · exact h'
  · obtain ⟨tail, rfl⟩ := h'
    rw [List.prefix_append_right_inj] at h
    cases tail with
    | nil => simp
    | cons d tail =>
      obtain ⟨rfl, -⟩ := List.cons_prefix_cons.1 h
      simp at hc

/-- A pattern that lacks a character occurs on one side of it or not at all. -/
theorem infix_append_cons_iff (hc : c ∉ pattern) :
    pattern <:+: left ++ c :: right ↔ pattern <:+: left ∨ pattern <:+: right := by
  induction left with
  | nil =>
    rw [List.nil_append, List.infix_cons_iff, List.infix_nil]
    constructor
    · rintro (h | h)
      · exact .inl (List.prefix_nil.1 (prefix_of_prefix_append_cons [] hc h))
      · exact .inr h
    · rintro (rfl | h)
      · exact .inl List.nil_prefix
      · exact .inr h
  | cons d left ih =>
    rw [List.cons_append, List.infix_cons_iff, List.infix_cons_iff, ih, or_assoc]
    constructor
    · rintro (h | h)
      · -- An occurrence at the start cannot reach over the character.
        exact .inl (prefix_of_prefix_append_cons (d :: left) hc h)
      · exact .inr h
    · rintro (h | h)
      · exact .inl (h.trans (List.prefix_append (d :: left) (c :: right)))
      · exact .inr h

/-- Two different characters stand next to each other on one side of the first of them, or the
other side starts with the second. -/
theorem pair_infix_append_cons_iff {d : Char} (hne : c ≠ d) :
    [c, d] <:+: left ++ c :: right
      ↔ [c, d] <:+: left ∨ right.head? = some d ∨ [c, d] <:+: right := by
  induction left with
  | nil =>
    rw [List.nil_append, List.infix_cons_iff, List.cons_prefix_cons]
    cases right with
    | nil => simp
    | cons e right => simp [eq_comm (a := d)]
  | cons e left ih =>
    rw [List.cons_append, List.infix_cons_iff, List.infix_cons_iff, ih, or_assoc]
    refine or_congr ?_ Iff.rfl
    -- The pair cannot take its second character from the one between the sides.
    cases left with
    | nil => simp [hne.symm]
    | cons f left => simp

theorem has_append_cons (hc : c ∉ pattern) (left right : Text) :
    has (left ++ c :: right) pattern = (has left pattern || has right pattern) := by
  rw [Bool.eq_iff_iff, Bool.or_eq_true, has_iff_infix, has_iff_infix, has_iff_infix,
    infix_append_cons_iff hc]

theorem has_eq_false_of_not_mem {text : Text} (hmem : c ∈ pattern) (hc : c ∉ text) :
    has text pattern = false := by
  rw [← Bool.not_eq_true, has_iff_infix]
  exact fun h => hc (h.subset hmem)

theorem has_eq_false_iff {text : Text} : has text pattern = false ↔ ¬ pattern <:+: text := by
  rw [← has_iff_infix, Bool.not_eq_true]

/-! ## First Occurrence -/

/-- `parts` of a text, as the parts of that text with `start` put before it. -/
def startedBy (start : Text) (parts : Text × Text) : Text × Text := (start ++ parts.1, parts.2)

@[simp] theorem startedBy_mk (start left right : Text) :
    startedBy start (left, right) = (start ++ left, right) := rfl

/-- A delimiter at the start of a text is found there. -/
theorem cut?_self_append (delimiter right : Text) :
    cut? delimiter (delimiter ++ right) = some ([], right) := by
  cases delimiter with
  | nil => cases right <;> simp [cut?]
  | cons d delimiter =>
    have hprefix : (d :: delimiter).isPrefixOf (d :: (delimiter ++ right)) = true :=
      List.isPrefixOf_iff_prefix.2 (List.prefix_append (d :: delimiter) right)
    rw [List.cons_append, cut?, if_pos hprefix]
    simp

/-- A delimiter that does not start a text is searched for past the first character. -/
theorem cut?_cons_skip (h : ¬ pattern <+: c :: right) :
    cut? pattern (c :: right) = (cut? pattern right).map (startedBy [c]) := by
  rw [← List.isPrefixOf_iff_prefix] at h
  rw [cut?, if_neg h]
  rfl

/-- A delimiter whose first character a piece lacks is found past the piece. -/
theorem cut?_append (delimiter : Text) (hc : c ∉ left) (right : Text) :
    cut? (c :: delimiter) (left ++ right)
      = (cut? (c :: delimiter) right).map (startedBy left) := by
  induction left with
  | nil => exact Option.map_id'.symm
  | cons d left ih =>
    rw [List.mem_cons, not_or] at hc
    rw [List.cons_append, cut?_cons_skip fun h => hc.1 (List.cons_prefix_cons.1 h).1,
      ih hc.2, Option.map_map]
    rfl

/-- A delimiter is found where it is first written if its first character does not come before
it. -/
theorem cut?_eq_some {delimiter text : Text} (c : Char) (hhead : delimiter.head? = some c)
    (hc : c ∉ left) (htext : text = left ++ (delimiter ++ right)) :
    cut? delimiter text = some (left, right) := by
  obtain ⟨tail, rfl⟩ := List.head?_eq_some_iff.1 hhead
  rw [htext, cut?_append _ hc, cut?_self_append]
  simp

/-- What comes before a delimiter is read up to it if the first character of the delimiter does not
come earlier. -/
theorem before?_append {delimiter : Text} (hhead : delimiter.head? = some c) (hc : c ∉ left)
    (right : Text) : before? (left ++ (delimiter ++ right)) delimiter = some left := by
  rw [before?, cut?_eq_some c hhead hc rfl]
  rfl

/-- A delimiter that a piece does not have, and that lacks the character after the piece, is
found past both. -/
theorem cut?_append_cons (hc : c ∉ pattern) (hleft : has left pattern = false) (right : Text) :
    cut? pattern (left ++ c :: right) = (cut? pattern right).map (startedBy (left ++ [c])) := by
  rw [has_eq_false_iff] at hleft
  induction left with
  | nil =>
    exact cut?_cons_skip fun h =>
      hleft (prefix_of_prefix_append_cons [] hc h).isInfix
  | cons d left ih =>
    have hprefix : ¬ pattern <+: d :: (left ++ c :: right) := fun h =>
      hleft (prefix_of_prefix_append_cons (d :: left) hc h).isInfix
    rw [List.cons_append, cut?_cons_skip hprefix, ih fun h => hleft (List.infix_cons h),
      Option.map_map]
    rfl

/-- A delimiter is found where it is first written past a character that it lacks, if it does not
occur before that character and its first character does not come in between. -/
theorem cut?_past {d : Char} (hhead : pattern.head? = some d) (hc : c ∉ pattern)
    (hleft : has left pattern = false) (hd : d ∉ word) (right : Text) :
    cut? pattern (left ++ c :: (word ++ (pattern ++ right)))
      = some (left ++ c :: word, right) := by
  rw [cut?_append_cons hc hleft, cut?_eq_some d hhead hd rfl]
  simp

/-- A delimiter is not found at a word that goes on with another letter than the delimiter. -/
theorem cut?_cons_append {d : Char} (delimiter : Text) (hne : word ≠ []) (hc : c ∉ word)
    (hd : word.head? ≠ some d) (right : Text) :
    cut? (c :: d :: delimiter) (c :: (word ++ right))
      = (cut? (c :: d :: delimiter) right).map (startedBy (c :: word)) := by
  obtain ⟨first, word, rfl⟩ := List.exists_cons_of_ne_nil hne
  -- The delimiter goes on with its second letter, the text with the first of the word.
  have hprefix : ¬ c :: d :: delimiter <+: c :: (first :: word ++ right) := by
    rw [List.cons_prefix_cons, List.cons_append, List.cons_prefix_cons]
    rintro ⟨-, rfl, -⟩
    exact hd rfl
  rw [cut?_cons_skip hprefix, cut?_append _ hc, Option.map_map]
  rfl

/-! ## Last Occurrence -/

/-- What follows a character that does not come again follows its last occurrence. -/
theorem afterLast?_append_cons (hright : c ∉ right) (left : Text) :
    afterLast? c (left ++ c :: right) = some right := by
  -- The search prefers what it finds later, so the character must not be found in the rest.
  have hnone : afterLast? c right = none := by
    induction right with
    | nil => rfl
    | cons d right ih =>
      rw [List.mem_cons, not_or] at hright
      rw [afterLast?, ih hright.2]
      exact if_neg (Ne.symm hright.1)
  induction left with
  | nil =>
    rw [List.nil_append, afterLast?, hnone]
    exact if_pos rfl
  | cons d left ih => rw [List.cons_append, afterLast?, ih]

/-! ## Trimming -/

theorem trimEnd_eq_self (h : ∀ c ∈ word, isBlank c = false) : trimEnd word = word := by
  rcases List.eq_nil_or_concat word with rfl | ⟨start, c, rfl⟩
  · rfl
  · rw [List.concat_eq_append]
    exact trimEnd_append_of_not_blank start (h c (by simp))

theorem trim_eq_self (h : ∀ c ∈ word, isBlank c = false) : trim word = word := by
  have hstart : trimStart word = word := by
    cases word with
    | nil => rfl
    | cons c word => exact trimStart_cons_of_not_blank word (h c (by simp))
  rw [trim, hstart, trimEnd_eq_self h]

@[simp] theorem trimEnd_append_space (text : Text) : trimEnd (text ++ [' ']) = trimEnd text := by
  have hblank : isBlank ' ' = true := by decide
  simp [trimEnd, hblank]

/-- A space after a text without blanks is trimmed. -/
theorem trim_append_space (h : ∀ c ∈ word, isBlank c = false) : trim (word ++ [' ']) = word := by
  cases word with
  | nil => decide
  | cons c word =>
    rw [trim, List.cons_append, trimStart_cons_of_not_blank _ (h c (by simp)), ← List.cons_append,
      trimEnd_append_space, trimEnd_eq_self h]

@[simp] theorem trim_space_cons (text : Text) : trim (' ' :: text) = trim text := by
  have hblank : isBlank ' ' = true := by decide
  simp [trim, trimStart, hblank]

theorem mem_dropWhile_isBlank {text : Text} (hblank : isBlank c = false) (h : c ∈ text) :
    c ∈ text.dropWhile isBlank := by
  induction text with
  | nil => cases h
  | cons d text ih =>
    rw [List.dropWhile_cons]
    split
    · rename_i hd
      refine ih (List.mem_of_ne_of_mem ?_ h)
      rintro rfl
      simp [hblank] at hd
    · exact h

/-- A character that is no blank is not trimmed. -/
theorem mem_trim {text : Text} (hblank : isBlank c = false) (h : c ∈ text) : c ∈ trim text := by
  have hstart : c ∈ text.dropWhile isBlank := mem_dropWhile_isBlank hblank h
  have hend := mem_dropWhile_isBlank hblank (List.mem_reverse.2 hstart)
  simpa [trim, trimEnd, trimStart] using hend

end MaterialNode.Text
