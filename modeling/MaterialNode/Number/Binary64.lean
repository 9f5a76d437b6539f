/-!
# Binary64 Numbers

A sample value is an IEEE 754 binary64 number. It is kept as its 64 bits, so that its
exact value, a sign and a product of a whole number and a power of two, can be read off.
-/

namespace MaterialNode

/-- A binary64 number, by its bits. -/
structure Binary64 where
  /-- The sign bit, eleven exponent bits and fifty-two fraction bits. -/
  bits : UInt64
  deriving DecidableEq

namespace Binary64

/-- The number zero with a clear sign bit. -/
def zero : Binary64 := ⟨0⟩

instance : Inhabited Binary64 := ⟨zero⟩

/-- The number that a machine float holds. -/
def ofFloat (x : Float) : Binary64 := ⟨x.toBits⟩

/-- The number of values of the fraction field, and the weight of the exponent field. -/
def fractionBound : Nat := 0x10000000000000

/-- The number of values of the exponent field. -/
def exponentBound : Nat := 0x800

/-- The weight of the sign bit. -/
def signWeight : Nat := 0x8000000000000000

/-- Whether the sign bit is set. Zero has a sign as well. -/
def isNegative (x : Binary64) : Bool := decide (signWeight ≤ x.bits.toNat)

/-- The exponent field. -/
def exponentField (x : Binary64) : Nat := x.bits.toNat / fractionBound % exponentBound

/-- The fraction field. -/
def fractionField (x : Binary64) : Nat := x.bits.toNat % fractionBound

/-- Whether the number is neither an infinity nor no number at all. -/
def isFinite (x : Binary64) : Bool := decide (x.exponentField ≠ 2047)

/-- The whole number `m` of the magnitude `m * 2 ^ e` of a finite number. -/
def significand (x : Binary64) : Nat :=
  if x.exponentField = 0 then x.fractionField else fractionBound + x.fractionField

/-- The power `e` of the magnitude `m * 2 ^ e` of a finite number. -/
def exponent (x : Binary64) : Int :=
  if x.exponentField = 0 then -1074 else (x.exponentField : Int) - 1075

end Binary64
end MaterialNode
