import MaterialNode.Proofs.Text.Numeral
import MaterialNode.Text.Lines

/-!
# The Characters of a Cut

Cutting and trimming bring no character into a text, replacing brings in those of the replacement
only, and numbers are spelled with digits and a sign. A text without line feeds therefore stays one
(`IsLine`) when it is taken apart, trimmed, replaced in, or put together with others of its kind.
-/

namespace MaterialNode.Text

variable {c : Char} {text delimiter left right pattern replacement : Text}

/-! ## Parts of a Text -/

theorem isPrefix_of_before? (h : before? text delimiter = some left) : left <+: text := by
  obtain ⟨⟨left, right⟩, hcut, rfl⟩ := Option.map_eq_some_iff.1 h
  rw [← append_of_cut? hcut, List.append_assoc]
  exact List.prefix_append left (delimiter ++ right)

theorem isSuffix_of_after? (h : after? text delimiter = some right) : right <:+ text := by
  obtain ⟨⟨left, right⟩, hcut, rfl⟩ := Option.map_eq_some_iff.1 h
  rw [← append_of_cut? hcut]
  exact List.suffix_append (left ++ delimiter) right

theorem upTo_isPrefix (text delimiter : Text) : upTo text delimiter <+: text := by
  rw [upTo]
  cases h : before? text delimiter with
  | none => exact List.prefix_refl text
  | some left => exact isPrefix_of_before? h

theorem subset_of_before? (h : before? text delimiter = some left) : left ⊆ text :=
  (isPrefix_of_before? h).subset

theorem subset_of_after? (h : after? text delimiter = some right) : right ⊆ text :=
  (isSuffix_of_after? h).subset

theorem upTo_subset (text delimiter : Text) : upTo text delimiter ⊆ text :=
  (upTo_isPrefix text delimiter).subset

theorem trim_subset (text : Text) : trim text ⊆ text := (trim_isInfix text).subset

theorem trimEnd_subset (text : Text) : trimEnd text ⊆ text := (trimEnd_isPrefix text).subset

/-- A character of a text with a pattern replaced is one of the text or of the replacement. -/
theorem mem_or_mem_of_mem_replaceFrom {skip : Nat}
    (h : c ∈ replaceFrom pattern replacement skip text) : c ∈ text ∨ c ∈ replacement := by
  induction text generalizing skip with
  | nil => cases h
  | cons d text ih =>
    -- Whatever is found in the rest is in the whole text as well.
    have hrest : ∀ {skip}, c ∈ replaceFrom pattern replacement skip text →
        c ∈ d :: text ∨ c ∈ replacement := fun h => (ih h).imp_left (List.mem_cons_of_mem d)
    cases skip with
    | succ skip => exact hrest h
    | zero =>
      rw [replaceFrom] at h
      split at h
      · rcases List.mem_append.1 h with h | h
        · exact .inr h
        · exact hrest h
      · rcases List.mem_cons.1 h with rfl | h
        · exact .inl List.mem_cons_self
        · exact hrest h

/-- Integers are spelled with digits and a minus sign. -/
theorem not_mem_ofInt (hdigit : isDigit c = false) (hsign : c ≠ '-') (i : Int) : c ∉ ofInt i := by
  have hnumber : c ∉ ofNat i.natAbs := (isDigits_ofNat _).not_mem hdigit
  rw [ofInt]
  split
  · exact List.not_mem_cons_of_ne_of_not_mem hsign hnumber
  · exact hnumber

/-! ## Texts without Line Feeds -/

/-- Whether a text is a single line: whether it has no line feed. -/
def IsLine (text : Text) : Prop := '\n' ∉ text

instance (text : Text) : Decidable (IsLine text) := inferInstanceAs (Decidable ('\n' ∉ text))

@[simp] theorem isLine_cons_iff : IsLine (c :: text) ↔ c ≠ '\n' ∧ IsLine text := by
  rw [IsLine, List.mem_cons, not_or, IsLine, ne_comm]

@[simp] theorem isLine_append_iff : IsLine (left ++ right) ↔ IsLine left ∧ IsLine right := by
  rw [IsLine, List.mem_append, not_or, IsLine, IsLine]

theorem IsLine.of_subset (h : IsLine text) (hsubset : left ⊆ text) : IsLine left :=
  fun hmem => h (hsubset hmem)

theorem IsLine.append (hleft : IsLine left) (hright : IsLine right) : IsLine (left ++ right) :=
  isLine_append_iff.2 ⟨hleft, hright⟩

theorem IsLine.replace (htext : IsLine text) (hreplacement : IsLine replacement) :
    IsLine (text.replace pattern replacement) := by
  intro hmem
  rcases mem_or_mem_of_mem_replaceFrom hmem with h | h
  · exact htext h
  · exact hreplacement h

@[simp] theorem isLine_ofNat (n : Nat) : IsLine (ofNat n) := (isDigits_ofNat n).not_mem (by decide)

@[simp] theorem isLine_ofInt (i : Int) : IsLine (ofInt i) :=
  not_mem_ofInt (by decide) (by decide) i

/-- The lines of a shader source are lines. -/
theorem isLine_of_mem_sourceLines {source line : Text} (h : line ∈ sourceLines source) :
    IsLine line := lineFeed_not_mem_sourceLines h

end MaterialNode.Text
