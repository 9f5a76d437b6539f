import MaterialNode.Text.Blank

/-!
# Numerals in Shader Text

Register numbers, element counts and sampler numbers are read from the digits at the
start of a text. Reading never fails: what holds no number counts as zero, and a number
too large for its destination is cut off or counts as zero.
-/

namespace MaterialNode.Text

/-- Whether a character is one of the ten ASCII digits. -/
def isDigit (c : Char) : Bool := decide ('0'.toNat ≤ c.toNat) && decide (c.toNat ≤ '9'.toNat)

/-- The value of a digit. -/
def digitValue (c : Char) : Nat := c.toNat - '0'.toNat

/-- The number that a run of digits spells. -/
def digitsValue (digits : Text) : Nat := digits.foldl (fun n c => 10 * n + digitValue c) 0

/-- The value of a hexadecimal digit, in capital or small letters. -/
def hexDigit? (c : Char) : Option Nat :=
  let n := c.toNat
  if isDigit c then some (digitValue c)
  else if 'a'.toNat ≤ n ∧ n ≤ 'f'.toNat then some (n - 'a'.toNat + 10)
  else if 'A'.toNat ≤ n ∧ n ≤ 'F'.toNat then some (n - 'A'.toNat + 10)
  else none

/-- The largest number that a numeral can denote; larger ones are cut off at it. -/
def maxNumber : Nat := 0x7FFFFFFFFFFFFFFF

/-- The least number of 64 bits with a sign. Its opposite is above `maxNumber`. -/
def minNumber : Int := -0x8000000000000000

/-- `i` as a number of 64 bits with a sign: numbers out of range are cut off at the end of
the range that they pass. -/
def saturate (i : Int) : Int := max minNumber (min i maxNumber)

/-- A number with one more digit. The product and the sum are cut off one after the other. -/
def appendDigit (n : Int) (c : Char) : Int := saturate (saturate (n * 10) + digitValue c)

/-- The number that a run of digits denotes, cut off at each digit. -/
def saturatedValue (digits : Text) : Int := digits.foldl appendDigit 0

/-- The number at the start of `text`: blanks, at most one sign, then as many digits as
there are. Without digits the number is zero. -/
def numberAtStart (text : Text) : Int :=
  match trimStart text with
  | '-' :: rest => -saturatedValue (rest.takeWhile isDigit)
  | '+' :: rest => saturatedValue (rest.takeWhile isDigit)
  | rest => saturatedValue (rest.takeWhile isDigit)

/-- The bound of register numbers and element counts. -/
def registerBound : Nat := 0x100000000

/-- `i` as a register number or element count: numbers out of range count as zero. -/
def toRegister (i : Int) : Nat :=
  if 0 ≤ i ∧ i < registerBound then i.toNat else 0

/-- `text` without its first `bytes` bytes of UTF-8, unless the cut falls inside a
character or past the end. -/
def dropBytes? : Nat → Text → Option Text
  | 0, text => some text
  | _ + 1, [] => none
  | n + 1, c :: rest => if c.utf8Size ≤ n + 1 then dropBytes? (n + 1 - c.utf8Size) rest else none

/-- The register number in a variable's name (`t12` has number 12), read after
`letters` bytes of prefix. -/
def registerNumber (name : Text) (letters : Nat) : Nat :=
  match dropBytes? letters name with
  | some digits => toRegister (numberAtStart digits)
  | none => 0

/-- Register numbers are bounded. -/
theorem toRegister_lt (i : Int) : toRegister i < registerBound := by
  unfold toRegister
  split
  · omega
  · decide

end MaterialNode.Text
