import MaterialNode.Number.Binary64
import MaterialNode.Text

/-!
# Numbers with Six Places

Sample values are written with exactly six places. The exact binary value is rounded to
the nearest multiple of a millionth, and a value halfway between two goes to the even one.
-/

namespace MaterialNode

/-- `numerator / denominator` rounded to the nearest whole number; a half goes to the even
neighbour. -/
def roundHalfEven (numerator denominator : Nat) : Nat :=
  let quotient := numerator / denominator
  let rest := numerator % denominator
  if 2 * rest < denominator then quotient
  else if denominator < 2 * rest then quotient + 1
  else quotient + quotient % 2

/-- Rounding is exact on multiples of the denominator. -/
theorem roundHalfEven_mul (n denominator : Nat) (h : 0 < denominator) :
    roundHalfEven (n * denominator) denominator = n := by
  simp [roundHalfEven, Nat.mul_div_cancel n h, h]

namespace Binary64

/-- The magnitude of a finite number in millionths, rounded. -/
def millionths (x : Binary64) : Nat :=
  match x.exponent with
  -- Whole numbers are exact; a fraction is a quotient by a power of two.
  | .ofNat power => x.significand * Nat.pow 2 power * 1000000
  | .negSucc power => roundHalfEven (x.significand * 1000000) (Nat.pow 2 (power + 1))

/-- A number of millionths as a decimal number with six places. -/
def writeMillionths (n : Nat) : Text :=
  let places := Text.ofNat (n % 1000000)
  Text.ofNat (n / 1000000) ++ '.' :: (List.replicate (6 - places.length) '0' ++ places)

/-- The number with six places. The sign is kept on zeros and on numbers that round to
zero. -/
def writeSixPlaces (x : Binary64) : Text :=
  let magnitude : Text :=
    if x.isFinite then writeMillionths x.millionths
    else if x.fractionField = 0 then "inf" else "NaN"
  if x.isNegative && (x.isFinite || x.fractionField == 0) then '-' :: magnitude else magnitude

end Binary64
end MaterialNode
