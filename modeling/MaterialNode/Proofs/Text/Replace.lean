import MaterialNode.Proofs.Text.Cut

/-!
# Replacing a Pattern

Occurrences are replaced from the left, and the search goes on after the one that was replaced.
The relation `ReplacesAll` says so without an algorithm: a text without the pattern is kept, and
otherwise the text up to the first occurrence is kept and the rest is replaced in the same way.
What is found in the result and not in the replacement therefore stands in a part of the text that
was kept (`ReplacesAll.exists_kept`).
-/

namespace MaterialNode.Text

/-- `ReplacesAll pattern replacement text result` holds if `result` is `text` with every
occurrence of `pattern` replaced, from the left and without overlaps. -/
inductive ReplacesAll (pattern replacement : Text) : Text → Text → Prop
  /-- A text without the pattern is kept. -/
  | keep {text : Text} (hnone : ¬ pattern <:+: text) : ReplacesAll pattern replacement text text
  /-- The first occurrence is replaced, and then those after it. -/
  | step {left right result : Text} (hfirst : ¬ pattern <:+: left ++ pattern.dropLast)
      (hrest : ReplacesAll pattern replacement right result) :
      ReplacesAll pattern replacement (left ++ pattern ++ right) (left ++ replacement ++ result)

variable {pattern replacement left right text : Text}

theorem append_dropLast_isPrefix (left pattern right : Text) :
    left ++ pattern.dropLast <+: left ++ pattern ++ right := by
  rw [List.append_assoc, List.prefix_append_right_inj]
  exact (List.dropLast_prefix pattern).trans (List.prefix_append pattern right)

/-- A pattern that occurs has a first occurrence. -/
theorem exists_first (hne : pattern ≠ []) (h : pattern <:+: text) :
    ∃ left right, text = left ++ pattern ++ right ∧ ¬ pattern <:+: left ++ pattern.dropLast := by
  induction text with
  | nil => exact absurd (List.infix_nil.1 h) hne
  | cons c text ih =>
    by_cases hstart : pattern <+: c :: text
    · obtain ⟨right, hright⟩ := hstart
      refine ⟨[], right, hright.symm, ?_⟩
      intro hpart
      have hlength : pattern.length ≤ pattern.dropLast.length := hpart.length_le
      have hpos : 0 < pattern.length := List.length_pos_iff.2 hne
      rw [List.length_dropLast] at hlength
      omega
    · have hlater : pattern <:+: text := (List.infix_cons_iff.1 h).resolve_left hstart
      obtain ⟨left, right, rfl, hfirst⟩ := ih hlater
      refine ⟨c :: left, right, rfl, ?_⟩
      rw [List.cons_append, List.infix_cons_iff, not_or]
      refine ⟨?_, hfirst⟩
      intro hpart
      apply hstart
      exact hpart.trans (append_dropLast_isPrefix (c :: left) pattern right)

/-- Characters that are passed over are dropped. -/
theorem replaceFrom_eq_drop (skip : Nat) (text : Text) :
    replaceFrom pattern replacement skip text = replace (text.drop skip) pattern replacement := by
  induction text generalizing skip with
  | nil =>
    rw [List.drop_nil]
    rfl
  | cons c text ih =>
    cases skip with
    | zero => rfl
    | succ skip =>
      rw [replaceFrom, ih]
      rfl

/-- Replacing starts with the first occurrence and goes on after it. -/
theorem replace_append_pattern (hne : pattern ≠ [])
    (hfirst : ¬ pattern <:+: left ++ pattern.dropLast) (right : Text) :
    replace (left ++ pattern ++ right) pattern replacement
      = left ++ replacement ++ replace right pattern replacement := by
  induction left with
  | nil =>
    obtain ⟨c, tail, rfl⟩ := List.exists_cons_of_ne_nil hne
    have hstart : (c :: tail).isPrefixOf (c :: (tail ++ right)) = true :=
      List.isPrefixOf_iff_prefix.2 (List.prefix_append (c :: tail) right)
    have hdrop : (tail ++ right).drop ((c :: tail).length - 1) = right := by simp
    rw [List.nil_append, List.nil_append, List.cons_append, replace, replaceFrom, if_pos hstart,
      replaceFrom_eq_drop, hdrop]
  | cons c left ih =>
    rw [List.cons_append, List.infix_cons_iff, not_or] at hfirst
    have hstart : ¬ pattern <+: c :: (left ++ pattern ++ right) := by
      intro hpart
      apply hfirst.1
      -- The pattern is no longer than what stands before the end of its first occurrence.
      refine List.prefix_of_prefix_length_le hpart
        (append_dropLast_isPrefix (c :: left) pattern right) ?_
      rw [List.length_cons, List.length_append, List.length_dropLast]
      omega
    rw [← List.isPrefixOf_iff_prefix] at hstart
    rw [List.cons_append, List.cons_append, replace, replaceFrom, if_neg hstart]
    exact congrArg (c :: ·) (ih hfirst.2)

/-- A text without the pattern is kept. -/
theorem replace_eq_self (hnone : ¬ pattern <:+: text) :
    replace text pattern replacement = text := by
  induction text with
  | nil => rfl
  | cons c text ih =>
    rw [List.infix_cons_iff, not_or] at hnone
    have hstart := hnone.1
    rw [← List.isPrefixOf_iff_prefix] at hstart
    rw [replace, replaceFrom, if_neg hstart]
    exact congrArg (c :: ·) (ih hnone.2)

/-- Replacing replaces every occurrence, and nothing else does. -/
theorem replacesAll_iff (hne : pattern ≠ []) {result : Text} :
    ReplacesAll pattern replacement text result ↔ result = replace text pattern replacement := by
  constructor
  · intro h
    induction h with
    | keep hnone => exact (replace_eq_self hnone).symm
    | step hfirst _ ih => rw [replace_append_pattern hne hfirst, ih]
  · rintro rfl
    -- What is left after the first occurrence is shorter.
    induction hlength : text.length using Nat.strongRecOn generalizing text with
    | ind length ih =>
      by_cases hpart : pattern <:+: text
      · obtain ⟨left, right, rfl, hfirst⟩ := exists_first hne hpart
        have hshort : right.length < length := by
          have hpos : 0 < pattern.length := List.length_pos_iff.2 hne
          rw [← hlength, List.length_append, List.length_append]
          omega
        rw [replace_append_pattern hne hfirst]
        exact .step hfirst (ih right.length hshort rfl)
      · rw [replace_eq_self hpart]
        exact .keep hpart

/-- A word that the replacement does not hold, and of which neither end of the replacement is a
character, is found in the result only where it stands in a kept part of the text. -/
theorem ReplacesAll.exists_kept {first last : Char} {inner word result : Text}
    (h : ReplacesAll pattern (first :: (inner ++ [last])) text result) (hfirst : first ∉ word)
    (hlast : last ∉ word) (hinner : ¬ word <:+: inner) (hword : word <:+: result) :
    ∃ kept, kept <:+: text ∧ ¬ pattern <:+: kept ∧ word <:+: kept := by
  induction h with
  | @keep text hnone => exact ⟨text, List.infix_refl text, hnone, hword⟩
  | @step left right result hbefore hrest ih =>
    have hresult : left ++ first :: (inner ++ [last]) ++ result
        = left ++ first :: (inner ++ last :: result) := by
      simp
    -- The word cannot reach over an end of the replacement.
    rw [hresult, infix_append_cons_iff hfirst, infix_append_cons_iff hlast] at hword
    rcases hword with hword | hword | hword
    · refine ⟨left, ?_, fun hpart => hbefore ?_, hword⟩
      · exact ((List.prefix_append left pattern).trans (List.prefix_append _ right)).isInfix
      · exact hpart.trans (List.prefix_append left pattern.dropLast).isInfix
    · exact absurd hword hinner
    · obtain ⟨kept, hpart, hnone, hkept⟩ := ih hword
      exact ⟨kept, hpart.trans (List.suffix_append (left ++ pattern) right).isInfix, hnone, hkept⟩

end MaterialNode.Text
