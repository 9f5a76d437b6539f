import Mathlib.Data.List.Induction
import MaterialNode.Proofs.Text.Cut
import MaterialNode.Text.Numeral

/-!
# Reading Numerals

A run of digits is read as the number that it spells, up to the bound of the destination
(`saturatedValue_eq_min`), and the decimal spelling of a number is such a run. Register numbers
therefore survive being written into a line and read out of it. Leading zeros apart, a number has
one such spelling (`ofNat_digitsValue`).
-/

namespace MaterialNode.Text

variable {digits : Text} {n : Nat}

/-- Whether all characters of a text are digits. -/
def IsDigits (text : Text) : Prop := ∀ c ∈ text, isDigit c = true

instance (text : Text) : Decidable (IsDigits text) :=
  decidable_of_iff (text.all isDigit = true) List.all_eq_true

theorem IsDigits.not_mem {c : Char} (h : IsDigits digits) (hc : isDigit c = false) :
    c ∉ digits := by
  intro hmem
  simp [h c hmem] at hc

theorem isBlank_eq_false_of_isDigit {c : Char} (h : isDigit c = true) : isBlank c = false := by
  simp only [isDigit, Bool.and_eq_true, decide_eq_true_eq] at h
  have h0 : '0'.toNat = 48 := rfl
  have h9 : '9'.toNat = 57 := rfl
  simp only [isBlank, inRanges, blankRanges, List.any_cons, List.any_nil, Bool.or_false,
    Bool.or_eq_false_iff, Bool.and_eq_false_iff, decide_eq_false_iff_not]
  omega

/-- A number that was cut off at the largest number stays there with one more digit, and any other
becomes the number with this digit, cut off if it is too large. -/
theorem appendDigit_min (n : Nat) (c : Char) :
    appendDigit ((min n maxNumber : Nat) : Int) c
      = ((min (10 * n + digitValue c) maxNumber : Nat) : Int) := by
  simp only [appendDigit, saturate, minNumber, maxNumber]
  omega

/-- Cutting off at each digit gives the number that the digits spell, up to the largest number. -/
theorem saturatedValue_eq_min (digits : Text) :
    saturatedValue digits = ((min (digitsValue digits) maxNumber : Nat) : Int) := by
  -- The number so far is the one that the digits so far spell, cut off.
  have hfold : ∀ n : Nat, digits.foldl appendDigit ((min n maxNumber : Nat) : Int)
      = ((min (digits.foldl (fun n c => 10 * n + digitValue c) n) maxNumber : Nat) : Int) := by
    induction digits with
    | nil => exact fun n => rfl
    | cons c rest ih =>
      intro n
      rw [List.foldl_cons, List.foldl_cons, appendDigit_min]
      exact ih _
  exact hfold 0

/-- A run of digits is read as the number that it spells, up to the largest number. -/
theorem numberAtStart_of_isDigits (h : IsDigits digits) :
    numberAtStart digits = ((min (digitsValue digits) maxNumber : Nat) : Int) := by
  have htake : digits.takeWhile isDigit = digits := by
    simpa using @List.takeWhile_append_of_pos _ isDigit digits [] h
  unfold numberAtStart
  cases digits with
  | nil => rfl
  | cons c rest =>
    have hc := h c (by simp)
    rw [trimStart_cons_of_not_blank rest (isBlank_eq_false_of_isDigit hc)]
    -- A run of digits starts with no sign.
    split
    · rename_i heq
      cases heq
      simp [isDigit] at hc
    · rename_i heq
      cases heq
      simp [isDigit] at hc
    · rw [htake, saturatedValue_eq_min]

/-- A run of digits is read as the register number that it spells if it is in range. -/
theorem toRegister_numberAtStart (h : IsDigits digits) (hlt : digitsValue digits < registerBound) :
    toRegister (numberAtStart digits) = digitsValue digits := by
  have hmax : digitsValue digits ≤ maxNumber := by
    have : registerBound ≤ maxNumber := by decide
    omega
  rw [numberAtStart_of_isDigits h, Nat.min_eq_left hmax, toRegister, if_pos (by omega)]
  exact Int.toNat_natCast _

/-! ## Decimal Spelling -/

/-- The decimal spelling of a number consists of digits. -/
theorem isDigits_ofNat (n : Nat) : IsDigits (ofNat n) := by
  intro c hc
  have hdigit := Nat.isDigit_of_mem_toDigits (by decide) (by decide) hc
  simpa [isDigit, Char.isDigit, UInt32.le_iff_toNat_le] using hdigit

/-- The decimal spelling of a number spells it. -/
theorem digitsValue_ofNat (n : Nat) : digitsValue (ofNat n) = n := by
  have h : digitsValue (ofNat n) = Nat.ofDigitChars 10 (ofNat n) 0 := by
    rw [Nat.ofDigitChars_eq_foldl]
    rfl
  rw [h]
  exact Nat.ofDigitChars_ten_toDigits

theorem digitValue_lt {c : Char} (h : isDigit c = true) : digitValue c < 10 := by
  simp only [isDigit, Bool.and_eq_true, decide_eq_true_eq] at h
  have h0 : '0'.toNat = 48 := rfl
  have h9 : '9'.toNat = 57 := rfl
  rw [digitValue]
  omega

/-- A digit is the spelling of its value. -/
theorem ofNat_digitValue {c : Char} (h : isDigit c = true) : ofNat (digitValue c) = [c] := by
  have hlt := digitValue_lt h
  have hchar : ∀ value < 10, Nat.digitChar value = Char.ofNat (48 + value) := by decide
  have hcode : 48 + digitValue c = c.toNat := by
    have h0 : '0'.toNat = 48 := rfl
    simp only [isDigit, Bool.and_eq_true, decide_eq_true_eq] at h
    rw [digitValue]
    omega
  rw [ofNat, Nat.toDigits_of_lt_base hlt, hchar _ hlt, hcode, Char.ofNat_toNat]

theorem digitsValue_concat (digits : Text) (c : Char) :
    digitsValue (digits ++ [c]) = 10 * digitsValue digits + digitValue c := by
  rw [digitsValue, List.foldl_append]
  rfl

/-- Zeros before a run of digits do not change what it spells. -/
theorem digitsValue_replicate_zero_append (count : Nat) (digits : Text) :
    digitsValue (List.replicate count '0' ++ digits) = digitsValue digits := by
  induction count with
  | zero => rfl
  | succ count ih => exact ih

/-- The decimal spelling of a positive number does not start with a zero. -/
theorem head?_ofNat_ne_zero (h : 0 < n) : (ofNat n).head? ≠ some '0' := by
  -- The first digit of a longer number is the first digit of its tenth.
  induction n using Nat.strongRecOn with
  | ind n ih =>
    rcases Nat.lt_or_ge n 10 with hlt | hge
    · have hdigit : ∀ value < 10, 0 < value → [Nat.digitChar value].head? ≠ some '0' := by decide
      rw [ofNat, Nat.toDigits_of_lt_base hlt]
      exact hdigit n hlt h
    · rw [ofNat, Nat.toDigits_of_base_le (by decide) hge, List.head?_append,
        Option.or_of_isSome (List.isSome_head?.2 Nat.toDigits_ne_nil)]
      exact ih (n / 10) (by omega) (by omega)

/-- A run of digits that does not start with a zero spells a positive number, and it is the decimal
spelling of this number. -/
theorem ofNat_digitsValue_of_head? (hne : digits ≠ []) (h : IsDigits digits)
    (hzero : digits.head? ≠ some '0') :
    0 < digitsValue digits ∧ ofNat (digitsValue digits) = digits := by
  -- The number before the last digit is positive, so the last digit is put after its spelling.
  induction digits using List.reverseRecOn with
  | nil => exact absurd rfl hne
  | append_singleton start c ih =>
    have hc : isDigit c = true := h c (by simp)
    rw [digitsValue_concat]
    by_cases hstart : start = []
    · subst hstart
      have hvalue := ofNat_digitValue hc
      have hnumber : 10 * digitsValue [] + digitValue c = digitValue c := by simp [digitsValue]
      rw [hnumber]
      refine ⟨Nat.pos_of_ne_zero fun heq => hzero ?_, hvalue⟩
      rw [heq] at hvalue
      rw [← hvalue]
      rfl
    · have hhead : start.head? ≠ some '0' := by
        rwa [List.head?_append, Option.or_of_isSome (List.isSome_head?.2 hstart)] at hzero
      obtain ⟨hpos, hspelled⟩ := ih hstart (fun d hd => h d (by simp [hd])) hhead
      refine ⟨by omega, ?_⟩
      rw [ofNat, ← Nat.toDigits_append_toDigits (by decide) hpos (digitValue_lt hc)]
      exact congrArg₂ (· ++ ·) hspelled (ofNat_digitValue hc)

/-- A run of digits without leading zeros is the decimal spelling of the number that it spells. -/
theorem ofNat_digitsValue (hne : digits ≠ []) (h : IsDigits digits)
    (hzero : digits.length = 1 ∨ digits.head? ≠ some '0') : ofNat (digitsValue digits) = digits := by
  rcases hzero with hlength | hhead
  · obtain ⟨c, rfl⟩ := List.length_eq_one_iff.1 hlength
    have hnumber : digitsValue [c] = digitValue c := by simp [digitsValue]
    rw [hnumber, ofNat_digitValue (h c List.mem_cons_self)]
  · exact (ofNat_digitsValue_of_head? hne h hhead).2

/-- A register number in decimal spelling is read back. -/
theorem toRegister_ofNat (h : n < registerBound) : toRegister (numberAtStart (ofNat n)) = n := by
  rw [toRegister_numberAtStart (isDigits_ofNat n) (by rwa [digitsValue_ofNat]), digitsValue_ofNat]

/-- Bytes are dropped by a cut after characters with so many bytes. -/
theorem dropBytes?_eq_some_iff {text rest : Text} {bytes : Nat} :
    dropBytes? bytes text = some rest
      ↔ ∃ front, text = front ++ rest ∧ byteLength front = bytes := by
  fun_induction dropBytes? bytes text with
  | case1 text =>
    constructor
    · rintro ⟨⟩
      exact ⟨[], rfl, rfl⟩
    · rintro ⟨front, rfl, hfront⟩
      cases front with
      | nil => rfl
      | cons c front =>
        have hpos := c.utf8Size_pos
        rw [byteLength] at hfront
        omega
  | case2 =>
    -- Nothing is left of the text.
    refine iff_of_false (by simp) ?_
    rintro ⟨front, heq, hfront⟩
    obtain ⟨rfl, -⟩ := List.append_eq_nil_iff.1 heq.symm
    cases hfront
  | case3 bytes c tail hfits ih =>
    rw [ih]
    constructor
    · rintro ⟨front, rfl, hfront⟩
      exact ⟨c :: front, rfl, by rw [byteLength, hfront, Nat.add_sub_cancel' hfits]⟩
    · rintro ⟨front, heq, hfront⟩
      cases front with
      | nil => cases hfront
      | cons d front =>
        cases heq
        exact ⟨front, rfl, Nat.eq_sub_of_add_eq' hfront⟩
  | case4 bytes c tail hfits =>
    -- The cut would fall inside the next character.
    refine iff_of_false (by simp) ?_
    rintro ⟨front, heq, hfront⟩
    cases front with
    | nil => cases hfront
    | cons d front =>
      cases heq
      rw [byteLength] at hfront
      omega

/-- Letters of one byte each are dropped by their number. -/
theorem dropBytes?_append {letters : Text} (h : letters.all (·.utf8Size == 1) = true)
    (rest : Text) : dropBytes? letters.length (letters ++ rest) = some rest := by
  have hbytes : byteLength letters = letters.length := by
    induction letters with
    | nil => rfl
    | cons c letters ih =>
      rw [List.all_cons, Bool.and_eq_true, beq_iff_eq] at h
      rw [byteLength, List.length_cons, ih h.2, h.1, Nat.add_comm]
  exact dropBytes?_eq_some_iff.2 ⟨letters, rfl, hbytes⟩

/-- A register number is read back from the name that it has with letters before it. -/
theorem registerNumber_append_ofNat (letters : Text)
    (h : letters.all (·.utf8Size == 1) = true) (hn : n < registerBound) :
    registerNumber (letters ++ ofNat n) letters.length = n := by
  rw [registerNumber, dropBytes?_append h]
  exact toRegister_ofNat hn

end MaterialNode.Text
