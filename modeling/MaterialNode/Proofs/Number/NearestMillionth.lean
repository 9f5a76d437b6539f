import MaterialNode.Code.Buffers
import MaterialNode.Proofs.Number.NearestWhole
import MaterialNode.Proofs.Text.Numeral

/-!
# Nearest Millionths

The exact value of a finite binary64 number is a whole number times a power of two, so it is a
quotient of whole numbers. It is printed as the whole number of millionths nearest to it
(`Binary64.isNearest_millionths`): the last six digits of this number, filled up with zeros, stand
after the point, the others before it, and the sign of the value before these. What is printed
therefore denotes a multiple of a millionth that no other one is nearer than
(`SampleRow.exists_rounds_write`), and since rounding keeps the order, so does printing.

## Main definitions

* `Binary64.value`: the exact value of a finite number.
* `SixPlaces`: a decimal number with six places, by its sign and its digits.
* `SixPlaces.Rounds`: such a number has the sign of a binary64 number and is nearest to it.
-/

namespace MaterialNode

open Text

/-! ## Exact Values -/

namespace Binary64

/-- The magnitude of a finite number. -/
def magnitude (x : Binary64) : ℚ := x.significand * 2 ^ x.exponent

/-- The exact value of a finite number. -/
def value (x : Binary64) : ℚ := if x.isNegative then -x.magnitude else x.magnitude

/-- The rounded millionths are nearest to the exact magnitude. -/
theorem isNearest_millionths (x : Binary64) :
    IsNearest (x.magnitude * 1000000) x.millionths := by
  rw [magnitude, millionths]
  cases x.exponent with
  | ofNat power =>
    have hwhole : (x.significand : ℚ) * 2 ^ (Int.ofNat power) * 1000000
        = ((x.significand * Nat.pow 2 power * 1000000 : Nat) : Int) := by
      rw [Nat.pow_eq, Int.ofNat_eq_natCast, zpow_natCast]
      push_cast
      rfl
    rw [hwhole]
    exact .self _
  | negSucc power =>
    have hquotient : (x.significand : ℚ) * 2 ^ (Int.negSucc power) * 1000000
        = (x.significand * 1000000 : Nat) / (Nat.pow 2 (power + 1) : Nat) := by
      rw [Nat.pow_eq, zpow_negSucc]
      push_cast
      ring
    rw [hquotient]
    exact isNearest_roundHalfEven _ (Nat.two_pow_pos _)

end Binary64

/-! ## Numbers with Six Places -/

/-- A decimal number with six places, as it is spelled: an optional minus sign, a whole number
without superfluous zeros, a point and six digits. -/
@[ext]
structure SixPlaces where
  /-- Whether there is a minus sign. -/
  isNegative : Bool
  /-- The digits before the point. -/
  whole : Text
  /-- The digits after the point. -/
  places : Text
  /-- Before the point there are digits only. -/
  isDigits_whole : IsDigits whole
  /-- There is at least one of them. -/
  whole_ne_nil : whole ≠ []
  /-- The first of several digits is no zero. -/
  head?_whole : whole.length = 1 ∨ whole.head? ≠ some '0'
  /-- After the point there are digits only. -/
  isDigits_places : IsDigits places
  /-- There are six of them. -/
  length_places : places.length = 6

namespace SixPlaces

/-- The spelling of a number. -/
def text (number : SixPlaces) : Text :=
  (if number.isNegative then "-" else "") ++ number.whole ++ "." ++ number.places

/-- The number without its sign. -/
def magnitude (number : SixPlaces) : ℚ :=
  digitsValue number.whole + digitsValue number.places / 1000000

/-- The number that is denoted. -/
def value (number : SixPlaces) : ℚ :=
  if number.isNegative then -number.magnitude else number.magnitude

/-- Whether a number has the sign of `x` and is the multiple of a millionth nearest to `x`, with an
even last digit where another multiple is equally near. -/
structure Rounds (number : SixPlaces) (x : Binary64) : Prop where
  /-- The minus sign stands for the sign bit. -/
  isNegative_eq : number.isNegative = x.isNegative
  /-- No multiple of a millionth is nearer. -/
  abs_sub_le : ∀ other : Int,
    |x.magnitude - number.magnitude| ≤ |x.magnitude - other / 1000000|
  /-- If another multiple is equally near, the last digit is even. -/
  even_of_eq : ∀ other : Int, (other / 1000000 : ℚ) ≠ number.magnitude →
    |x.magnitude - number.magnitude| = |x.magnitude - other / 1000000| →
    ∀ digit ∈ number.places.getLast?, Even (digitValue digit)

/-- A number is determined by its spelling. -/
theorem ext_of_text {first second : SixPlaces} (h : first.text = second.text) :
    first = second := by
  have hhead : ∀ number : SixPlaces, (number.whole ++ "." ++ number.places).head? ≠ some '-' := by
    intro number heq
    obtain ⟨digit, rest, hwhole⟩ := List.exists_cons_of_ne_nil number.whole_ne_nil
    rw [hwhole] at heq
    have hminus : digit = '-' := by simpa using heq
    have hdigit := number.isDigits_whole digit (by rw [hwhole]; exact List.mem_cons_self)
    rw [hminus] at hdigit
    cases hdigit
  -- No digit is a sign, and the point stands before the last six digits.
  have hdigits : first.isNegative = second.isNegative ∧ first.whole ++ "." ++ first.places
      = second.whole ++ "." ++ second.places := by
    simp only [text, List.append_assoc] at h hhead ⊢
    cases hfirst : first.isNegative <;> cases hsecond : second.isNegative <;>
      rw [hfirst, hsecond] at h
    · exact ⟨rfl, h⟩
    · exact absurd (congrArg List.head? h) (hhead first)
    · exact absurd (congrArg List.head? h.symm) (hhead second)
    · exact ⟨rfl, List.tail_eq_of_cons_eq h⟩
  obtain ⟨hsign, hdigits⟩ := hdigits
  obtain ⟨hwhole, hplaces⟩ := List.append_inj' hdigits
    (first.length_places.trans second.length_places.symm)
  exact SixPlaces.ext hsign (List.append_inj_left' hwhole rfl) hplaces

/-- The number of so many millionths, with the given sign. -/
def ofMillionths (isNegative : Bool) (n : Nat) : SixPlaces where
  isNegative := isNegative
  whole := ofNat (n / 1000000)
  places := List.replicate (6 - (ofNat (n % 1000000)).length) '0' ++ ofNat (n % 1000000)
  isDigits_whole := isDigits_ofNat _
  whole_ne_nil := Nat.toDigits_ne_nil
  head?_whole := by
    rcases Nat.eq_zero_or_pos (n / 1000000) with hzero | hpos
    · exact .inl (by rw [hzero]; rfl)
    · exact .inr (head?_ofNat_ne_zero hpos)
  isDigits_places := by
    intro c hc
    rcases List.mem_append.1 hc with hzero | hdigit
    · rw [List.eq_of_mem_replicate hzero]
      rfl
    · exact isDigits_ofNat _ c hdigit
  length_places := by
    have hlength : (ofNat (n % 1000000)).length ≤ 6 :=
      (Nat.length_toDigits_le_iff (by decide) (by decide)).2 (Nat.mod_lt n (by decide))
    rw [List.length_append, List.length_replicate]
    omega

variable (isNegative : Bool) (n : Nat)

theorem text_ofMillionths :
    (ofMillionths isNegative n).text
      = (if isNegative then "-" else "") ++ Binary64.writeMillionths n := by
  simp only [text, ofMillionths, Binary64.writeMillionths, List.append_assoc]
  rfl

theorem digitsValue_places_ofMillionths :
    digitsValue (ofMillionths isNegative n).places = n % 1000000 := by
  rw [ofMillionths, digitsValue_replicate_zero_append, digitsValue_ofNat]

/-- The digits before and after the point denote the number of millionths. -/
theorem magnitude_ofMillionths : (ofMillionths isNegative n).magnitude = n / 1000000 := by
  have hparts : (n : ℚ) = (n / 1000000 : Nat) * 1000000 + (n % 1000000 : Nat) := by
    exact_mod_cast (Nat.div_add_mod' n 1000000).symm
  rw [magnitude, digitsValue_places_ofMillionths, ofMillionths, digitsValue_ofNat, hparts, add_div,
    mul_div_cancel_right₀ _ (by norm_num)]

/-- The last digit is even if the number of millionths is. -/
theorem even_of_mem_getLast?_ofMillionths (heven : Even n) {digit : Char}
    (hdigit : digit ∈ (ofMillionths isNegative n).places.getLast?) : Even (digitValue digit) := by
  obtain ⟨start, hstart⟩ := List.getLast?_eq_some_iff.1 hdigit
  have hvalue := digitsValue_places_ofMillionths isNegative n
  rw [hstart, digitsValue_concat] at hvalue
  rw [Nat.even_iff] at heven ⊢
  omega

end SixPlaces

namespace Binary64

/-- A finite number as it is printed. -/
def sixPlaces (x : Binary64) : SixPlaces := .ofMillionths x.isNegative x.millionths

theorem text_sixPlaces {x : Binary64} (h : x.isFinite = true) :
    x.sixPlaces.text = x.writeSixPlaces := by
  rw [sixPlaces, SixPlaces.text_ofMillionths, writeSixPlaces, if_pos h, h, Bool.true_or,
    Bool.and_true]
  cases x.isNegative <;> rfl

/-- What is printed is the multiple of a millionth that is nearest to the exact magnitude. -/
theorem rounds_sixPlaces (x : Binary64) : x.sixPlaces.Rounds x := by
  have hnearest := x.isNearest_millionths
  have hmagnitude : x.sixPlaces.magnitude = ((x.millionths : Int) / 1000000 : ℚ) :=
    SixPlaces.magnitude_ofMillionths _ _
  -- Distances are compared in millionths.
  have hscale : ∀ other : Int,
      |x.magnitude - other / 1000000| = |x.magnitude * 1000000 - other| / 1000000 := by
    intro other
    have hparts : x.magnitude - other / 1000000 = (x.magnitude * 1000000 - other) / 1000000 := by
      ring
    rw [hparts, abs_div, abs_of_pos (by norm_num : (0 : ℚ) < 1000000)]
  refine ⟨rfl, fun other => ?_, fun other hne heq digit hdigit => ?_⟩
  · rw [hmagnitude, hscale, hscale]
    exact div_le_div_of_nonneg_right (hnearest.abs_sub_le other) (by norm_num)
  · rw [hmagnitude, hscale, hscale, div_left_inj' (by norm_num)] at heq
    have hother : other ≠ x.millionths := by
      rintro rfl
      exact hne hmagnitude.symm
    have heven := hnearest.even_of_eq other hother heq
    exact SixPlaces.even_of_mem_getLast?_ofMillionths _ _ ((Int.even_coe_nat _).1 heven) hdigit

/-- The rounded millionths of a number with its sign. -/
def signedMillionths (x : Binary64) : Int := if x.isNegative then -x.millionths else x.millionths

/-- Rounding treats both signs alike. -/
theorem isNearest_signedMillionths (x : Binary64) :
    IsNearest (x.value * 1000000) x.signedMillionths := by
  rw [value, signedMillionths]
  split
  · rw [neg_mul]
    exact x.isNearest_millionths.neg
  · exact x.isNearest_millionths

theorem value_sixPlaces (x : Binary64) : x.sixPlaces.value = x.signedMillionths / 1000000 := by
  rw [SixPlaces.value, sixPlaces, SixPlaces.magnitude_ofMillionths, SixPlaces.ofMillionths,
    signedMillionths]
  split
  · push_cast
    rw [neg_div]
  · rfl

/-- Printing keeps the order. -/
theorem value_sixPlaces_le {x y : Binary64} (h : x.value ≤ y.value) :
    x.sixPlaces.value ≤ y.sixPlaces.value := by
  have hscaled : x.value * 1000000 ≤ y.value * 1000000 :=
    mul_le_mul_of_nonneg_right h (by norm_num)
  have hrounded : x.signedMillionths ≤ y.signedMillionths :=
    x.isNearest_signedMillionths.le_of_le y.isNearest_signedMillionths hscaled
  rw [value_sixPlaces, value_sixPlaces]
  exact div_le_div_of_nonneg_right (Int.cast_le.2 hrounded) (by norm_num)

end Binary64

/-! ## Sample Rows -/

namespace SampleRow

/-- The components of a row in order. -/
def components (row : SampleRow) : List Binary64 := [row.x, row.y, row.z, row.w]

/-- The initialiser with the given numbers. -/
def initialiser (numbers : List SixPlaces) : Text :=
  "float4(" ++ joinWith ", " (numbers.map SixPlaces.text) ++ "),"

/-- A row is written as its components with commas between them. -/
theorem write_eq (row : SampleRow) :
    row.write
      = "float4(" ++ joinWith ", " (row.components.map Binary64.writeSixPlaces) ++ ")," := by
  simp only [components, List.map_cons, List.map_nil, joinWith]
  unfold write
  simp only [List.append_assoc]

/-- A row of finite numbers is written as an initialiser of decimal numbers with six places, each
with the sign of its component and nearest to it. Two finite numbers in order are written as decimal
numbers in the same order. -/
theorem exists_rounds_write :
    (∀ row : SampleRow, (∀ x ∈ row.components, x.isFinite = true) →
      ∃ numbers : List SixPlaces, row.write = initialiser numbers
        ∧ List.Forall₂ SixPlaces.Rounds numbers row.components)
      ∧ ∀ x y : Binary64, x.isFinite = true → y.isFinite = true → x.value ≤ y.value →
        ∀ first second : SixPlaces, first.text = x.writeSixPlaces → second.text = y.writeSixPlaces →
          first.value ≤ second.value := by
  constructor
  · intro row hfinite
    refine ⟨row.components.map Binary64.sixPlaces, ?_, ?_⟩
    · have htexts : (row.components.map Binary64.sixPlaces).map SixPlaces.text
          = row.components.map Binary64.writeSixPlaces := by
        rw [List.map_map]
        exact List.map_congr_left fun x hx => Binary64.text_sixPlaces (hfinite x hx)
      unfold initialiser
      rw [htexts]
      exact row.write_eq
    · rw [List.forall₂_map_left_iff, List.forall₂_same]
      exact fun x _ => x.rounds_sixPlaces
  · intro x y hx hy hle first second hfirst hsecond
    -- A text is the spelling of one number only.
    rw [SixPlaces.ext_of_text (hfirst.trans (Binary64.text_sixPlaces hx).symm),
      SixPlaces.ext_of_text (hsecond.trans (Binary64.text_sixPlaces hy).symm)]
    exact Binary64.value_sixPlaces_le hle

/-- A row with a carry up to one, a negative number that rounds to zero, a number halfway between
two multiples of a millionth, and a number beyond 64 bits. -/
def awkwardRow : SampleRow :=
  ⟨⟨0x3FEFFFFEF39085F5⟩, ⟨0x8000000000000001⟩, ⟨0x3F80000000000000⟩, ⟨0x4480F0CF064DD592⟩⟩

/-- The awkward row is written in full, with the sign of its second component. -/
theorem exists_rounds_awkwardRow :
    (∀ x ∈ awkwardRow.components, x.isFinite = true)
      ∧ awkwardRow.write
        = "float4(1.000000, -0.000000, 0.007812, 10000000000000000000000.000000),"
      ∧ (∃ numbers : List SixPlaces, awkwardRow.write = initialiser numbers
        ∧ List.Forall₂ SixPlaces.Rounds numbers awkwardRow.components)
      ∧ awkwardRow.y.value ≤ awkwardRow.z.value
      ∧ ∀ first second : SixPlaces, first.text = awkwardRow.y.writeSixPlaces →
        second.text = awkwardRow.z.writeSixPlaces → first.value ≤ second.value := by
  have hfinite : ∀ x ∈ awkwardRow.components, x.isFinite = true := by decide
  have hle : awkwardRow.y.value ≤ awkwardRow.z.value := by decide +kernel
  exact ⟨hfinite, by decide +kernel, exists_rounds_write.1 awkwardRow hfinite, hle,
    exists_rounds_write.2 awkwardRow.y awkwardRow.z (hfinite _ (by simp [components]))
      (hfinite _ (by simp [components])) hle⟩

end SampleRow

end MaterialNode
