import MaterialNode.Proofs.Text.Numeral

/-!
# Identifiers

Types, semantics and texture dimensions are written as identifiers. An identifier holds none of
the characters that delimit the fields of a line, so a field that is an identifier ends where
its delimiter stands and trimming leaves it alone.
-/

namespace MaterialNode.Text

/-- The first and last code points of the digits, the capital letters, the underscore and the small
letters. -/
def nameRanges : List (Nat × Nat) := [(0x30, 0x39), (0x41, 0x5A), (0x5F, 0x5F), (0x61, 0x7A)]

/-- Whether a character may stand in an identifier: a letter, a digit or an underscore. Every
character beyond ASCII that is no blank counts as a letter. -/
def isNameCharacter (c : Char) : Bool :=
  inRanges nameRanges c.toNat || (decide (0x80 ≤ c.toNat) && !isBlank c)

theorem isBlank_eq_false_of_isNameCharacter {c : Char} (h : isNameCharacter c = true) :
    isBlank c = false := by
  rw [isNameCharacter, Bool.or_eq_true, Bool.and_eq_true, Bool.not_eq_true'] at h
  rcases h with hascii | ⟨-, hblank⟩
  · -- The ASCII blanks stand before the digits.
    simp only [inRanges, nameRanges, List.any_cons, List.any_nil, Bool.or_false, Bool.or_eq_true,
      Bool.and_eq_true, decide_eq_true_eq] at hascii
    simp only [isBlank, inRanges, blankRanges, List.any_cons, List.any_nil, Bool.or_false,
      Bool.or_eq_false_iff, Bool.and_eq_false_iff, decide_eq_false_iff_not]
    omega
  · exact hblank

theorem isNameCharacter_of_isDigit {c : Char} (h : isDigit c = true) :
    isNameCharacter c = true := by
  have hrange : 0x30 ≤ c.toNat ∧ c.toNat ≤ 0x39 := by
    simpa [isDigit] using h
  simp [isNameCharacter, inRanges, nameRanges, hrange]

/-- An identifier is a non-empty text of letters, digits and underscores. -/
structure IsIdentifier (word : Text) : Prop where
  /-- An identifier has at least one character. -/
  ne_nil : word ≠ []
  /-- All its characters may stand in an identifier. -/
  all_name : ∀ c ∈ word, isNameCharacter c = true

instance (word : Text) : Decidable (IsIdentifier word) :=
  decidable_of_iff (word ≠ [] ∧ word.all isNameCharacter = true)
    ⟨fun h => ⟨h.1, List.all_eq_true.1 h.2⟩, fun h => ⟨h.1, List.all_eq_true.2 h.2⟩⟩

namespace IsIdentifier

variable {word : Text}

theorem not_mem (h : IsIdentifier word) {c : Char} (hc : isNameCharacter c = false) :
    c ∉ word := by
  intro hmem
  simp [h.all_name c hmem] at hc

/-- A text that starts with an identifier starts with the first character of it. -/
theorem head?_append (h : IsIdentifier word) (rest : Text) : (word ++ rest).head? = word.head? := by
  obtain ⟨first, word, rfl⟩ := List.exists_cons_of_ne_nil h.ne_nil
  rfl

theorem trim_eq (h : IsIdentifier word) : trim word = word :=
  trim_eq_self fun c hc => isBlank_eq_false_of_isNameCharacter (h.all_name c hc)

end IsIdentifier

/-- The decimal spelling of a number is an identifier. -/
theorem isIdentifier_ofNat (n : Nat) : IsIdentifier (ofNat n) where
  ne_nil := Nat.toDigits_ne_nil
  all_name c hc := isNameCharacter_of_isDigit (isDigits_ofNat n c hc)

/-- The name of a register is an identifier. -/
theorem isIdentifier_registerName {letter : Char} (hletter : isNameCharacter letter = true)
    (n : Nat) : IsIdentifier (letter :: ofNat n) where
  ne_nil := List.cons_ne_nil letter (ofNat n)
  all_name := List.forall_mem_cons.2 ⟨hletter, (isIdentifier_ofNat n).all_name⟩

end MaterialNode.Text
