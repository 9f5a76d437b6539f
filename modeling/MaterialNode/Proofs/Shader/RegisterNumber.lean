import Mathlib.Algebra.Order.Ring.Int
import MaterialNode.Proofs.Text.Numeral
import MaterialNode.Shader.SampleInstruction

/-!
# Register Numbers

What is read of a text as a number are the blanks at its start, at most one sign and the digits
after these (`LeadingNumeral`). The digits are added up in 64 bits and cut off at the largest
number, which gives the number that they spell or this bound (`Text.saturatedValue_eq_min`). The
opposite of the bound is still above the least number of 64 bits, so neither the sign nor the step
down to the sampler of a sample instruction leaves the range. A register number is read after the
letters of a name and counts only within 32 bits (`Text.numberAtStart_eq_and_isRegisterNumber`).

## Main definitions

* `LeadingNumeral`: a text in the pieces that are read of it as a number.
* `IsRegisterNumber`: the register number of a name, by the ways to cut the name.
-/

namespace MaterialNode

namespace Text

variable {text : Text}

/-! ## Numbers at the Start of a Text -/

/-- A text in the pieces that are read of it as a number. -/
structure LeadingNumeral (text : Text) where
  /-- The blanks at the start. -/
  blanks : Text
  /-- The sign, if there is one. -/
  sign : Text
  /-- The digits. -/
  digits : Text
  /-- What is not read. -/
  rest : Text
  /-- The pieces make up the text. -/
  text_eq : text = blanks ++ (sign ++ (digits ++ rest))
  /-- Blanks are passed over. -/
  isBlank_blanks : ∀ c ∈ blanks, isBlank c = true
  /-- All blanks at the start are passed over. -/
  isBlank_head : ∀ c ∈ (sign ++ (digits ++ rest)).head?, isBlank c = false
  /-- One sign is taken if one follows. -/
  sign_eq : sign = ['-'] ∨ sign = ['+']
    ∨ sign = [] ∧ ∀ c ∈ (digits ++ rest).head?, c ≠ '-' ∧ c ≠ '+'
  /-- The digits are a run of digits. -/
  isDigits_digits : IsDigits digits
  /-- The run is as long as possible. -/
  isDigit_rest : ∀ c ∈ rest.head?, isDigit c = false

/-- The number that the pieces denote: the one that the digits spell, cut off at 64 bits and with
the sign. -/
def LeadingNumeral.number (numeral : LeadingNumeral text) : Int :=
  (if numeral.sign = ['-'] then -1 else 1) * min (digitsValue numeral.digits : Int) (2 ^ 63 - 1)

theorem eq_false_of_mem_head?_dropWhile {test : Char → Bool} {c : Char}
    (h : c ∈ (text.dropWhile test).head?) : test c = false := by
  have hhead := List.head?_dropWhile_not test text
  rw [Option.mem_def.1 h] at hhead
  exact hhead

theorem dropWhile_append_of_head? {test : Char → Bool} {before rest : Text}
    (hbefore : ∀ c ∈ before, test c = true) (hrest : ∀ c ∈ rest.head?, test c = false) :
    (before ++ rest).dropWhile test = rest := by
  rw [List.dropWhile_append_of_pos hbefore]
  cases rest with
  | nil => rfl
  | cons c rest => rw [List.dropWhile_cons_of_neg (by simp [hrest c rfl])]

theorem takeWhile_append_of_head? {test : Char → Bool} {before rest : Text}
    (hbefore : ∀ c ∈ before, test c = true) (hrest : ∀ c ∈ rest.head?, test c = false) :
    (before ++ rest).takeWhile test = before := by
  rw [List.takeWhile_append_of_pos hbefore]
  cases rest with
  | nil => exact List.append_nil before
  | cons c rest => rw [List.takeWhile_cons_of_neg (by simp [hrest c rfl]), List.append_nil]

/-- A sign is taken off a text if it starts with one. -/
theorem exists_sign (text : Text) :
    ∃ sign tail, text = sign ++ tail
      ∧ (sign = ['-'] ∨ sign = ['+'] ∨ sign = [] ∧ ∀ c ∈ tail.head?, c ≠ '-' ∧ c ≠ '+') := by
  by_cases hminus : text.head? = some '-'
  · obtain ⟨tail, rfl⟩ := List.head?_eq_some_iff.1 hminus
    exact ⟨['-'], tail, rfl, .inl rfl⟩
  · by_cases hplus : text.head? = some '+'
    · obtain ⟨tail, rfl⟩ := List.head?_eq_some_iff.1 hplus
      exact ⟨['+'], tail, rfl, .inr (.inl rfl)⟩
    · refine ⟨[], text, rfl, .inr (.inr ⟨rfl, fun c hc => ⟨?_, ?_⟩⟩)⟩
      · rintro rfl
        exact hminus hc
      · rintro rfl
        exact hplus hc

/-- Every text can be cut into the pieces that are read of it as a number. -/
theorem nonempty_leadingNumeral (text : Text) : Nonempty (LeadingNumeral text) := by
  obtain ⟨sign, tail, hbody, hsign⟩ := exists_sign (trimStart text)
  have htail : tail.takeWhile isDigit ++ tail.dropWhile isDigit = tail :=
    List.takeWhile_append_dropWhile
  refine ⟨⟨text.takeWhile isBlank, sign, tail.takeWhile isDigit, tail.dropWhile isDigit, ?_,
    List.all_eq_true.1 List.all_takeWhile, ?_, ?_, List.all_eq_true.1 List.all_takeWhile,
    fun c hc => eq_false_of_mem_head?_dropWhile hc⟩⟩
  · rw [htail, ← hbody]
    exact List.takeWhile_append_dropWhile.symm
  · rw [htail, ← hbody]
    exact fun c hc => eq_false_of_mem_head?_dropWhile hc
  · rwa [htail]

/-- The number at the start of a text is the one that its pieces denote, however it is cut. -/
theorem numberAtStart_eq (numeral : LeadingNumeral text) :
    numberAtStart text = numeral.number := by
  have hbody : trimStart text = numeral.sign ++ (numeral.digits ++ numeral.rest) :=
    (congrArg trimStart numeral.text_eq).trans
      (dropWhile_append_of_head? numeral.isBlank_blanks numeral.isBlank_head)
  have hrun : (numeral.digits ++ numeral.rest).takeWhile isDigit = numeral.digits :=
    takeWhile_append_of_head? numeral.isDigits_digits numeral.isDigit_rest
  have hvalue : saturatedValue numeral.digits
      = min (digitsValue numeral.digits : Int) (2 ^ 63 - 1) := by
    rw [saturatedValue_eq_min, maxNumber]
    omega
  rw [numberAtStart, hbody, LeadingNumeral.number, ← hvalue]
  rcases numeral.sign_eq with hsign | hsign | ⟨hsign, hnone⟩
  · -- A minus sign turns the number over.
    rw [hsign, if_pos rfl, Int.neg_one_mul]
    exact congrArg (-saturatedValue ·) hrun
  · rw [hsign, if_neg (by decide), Int.one_mul]
    exact congrArg saturatedValue hrun
  · rw [hsign, if_neg (by decide), Int.one_mul, List.nil_append]
    split
    · rename_i heq
      exact absurd rfl (hnone '-' (by rw [heq]; rfl)).1
    · rename_i heq
      exact absurd rfl (hnone '+' (by rw [heq]; rfl)).2
    · exact congrArg saturatedValue hrun

example : numberAtStart "\t -0099999999999999999999_s" = 1 - 2 ^ 63 := by decide +kernel

/-- A number lies between the largest number of 64 bits and its opposite. -/
theorem numberAtStart_mem_range (text : Text) :
    -2 ^ 63 < numberAtStart text ∧ numberAtStart text < 2 ^ 63 := by
  obtain ⟨numeral⟩ := nonempty_leadingNumeral text
  rw [numberAtStart_eq numeral, LeadingNumeral.number]
  split <;> omega

/-! ## Register Numbers of Names -/

/-- Whether `register` is the register number in a name with so many bytes of letters before it. -/
structure IsRegisterNumber (name : Text) (letters register : Nat) : Prop where
  /-- The number after the letters counts if it lies within 32 bits. -/
  eq_of_append : ∀ front rest, name = front ++ rest → byteLength front = letters →
    (register : Int)
      = if 0 ≤ numberAtStart rest ∧ numberAtStart rest ≤ 2 ^ 32 - 1 then numberAtStart rest else 0
  /-- A name that cannot be cut after the letters has no number. -/
  eq_zero : (∀ front rest, name = front ++ rest → byteLength front ≠ letters) → register = 0

theorem isRegisterNumber_registerNumber (name : Text) (letters : Nat) :
    IsRegisterNumber name letters (registerNumber name letters) where
  eq_of_append := by
    intro front rest hname hfront
    rw [registerNumber, dropBytes?_eq_some_iff.2 ⟨front, hname, hfront⟩]
    change (toRegister (numberAtStart rest) : Int) = _
    rw [toRegister, registerBound]
    split <;> split <;> omega
  eq_zero := by
    intro hnone
    have hdrop : dropBytes? letters name = none := by
      rw [Option.eq_none_iff_forall_ne_some]
      intro rest hrest
      obtain ⟨front, hname, hfront⟩ := dropBytes?_eq_some_iff.1 hrest
      exact hnone front rest hname hfront
    rw [registerNumber, hdrop]

/-! ## Reading Is Exact -/

/-- Every text has a number at its start, which its pieces denote and which is not the least number
of 64 bits. The sampler of a sample instruction, one below the number that is read, is a number of
64 bits as well. Names have the register number that is read after their letters if it lies within
32 bits, and zero otherwise. -/
theorem numberAtStart_eq_and_isRegisterNumber :
    (∀ text : Text, Nonempty (LeadingNumeral text)
        ∧ (∀ numeral : LeadingNumeral text, numberAtStart text = numeral.number)
        ∧ Int64.minValue.toInt < numberAtStart text ∧ numberAtStart text ≤ Int64.maxValue.toInt)
      ∧ (∀ line : Text, let sampler := (SampleInstruction.ofLine line).samplerSlot
        (Int64.ofInt sampler).toInt = sampler ∧ (Int64.ofInt sampler - 1).toInt = sampler - 1)
      ∧ ∀ (name : Text) (letters : Nat),
        IsRegisterNumber name letters (registerNumber name letters) := by
  refine ⟨fun text => ?_, fun line => ?_, isRegisterNumber_registerNumber⟩
  · obtain ⟨hlow, hhigh⟩ := numberAtStart_mem_range text
    rw [Int64.toInt_minValue, Int64.toInt_maxValue]
    exact ⟨nonempty_leadingNumeral text, numberAtStart_eq, hlow, by omega⟩
  · intro sampler
    have hrange : -2 ^ 63 < sampler ∧ sampler < 2 ^ 63 := by
      simp only [sampler, SampleInstruction.ofLine]
      split
      · exact numberAtStart_mem_range _
      · decide
    have hone : (1 : Int64) = Int64.ofInt 1 := by decide
    rw [hone, ← Int64.ofInt_sub]
    exact ⟨Int64.toInt_ofInt_of_le (by omega) (by omega),
      Int64.toInt_ofInt_of_le (by omega) (by omega)⟩

end Text

end MaterialNode
