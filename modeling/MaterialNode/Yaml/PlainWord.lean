import MaterialNode.Text.Numeral

/-!
# Plain Words of YAML

A plain scalar without a tag may be a truth value, a number or nothing instead of a
string. This module says which words are taken for something other than themselves. Numbers
are whole numbers in one of three notations with a prefix, as far as 128 bits hold them,
and decimals, as far as they are finite in binary64. Digits after a needless zero are no
number, but look like one and are set apart as well.
-/

namespace MaterialNode.Yaml

/-- The words for nothing and for truth values. -/
def constantWords : List Text :=
  ["null", "Null", "NULL", "~", "true", "True", "TRUE", "false", "False", "FALSE"]

/-- The words for decimals that are no number or not finite. -/
def unboundedWords : List Text :=
  [".inf", ".Inf", ".INF", "+.inf", "+.Inf", "+.INF", "-.inf", "-.Inf", "-.INF", ".nan", ".NaN",
    ".NAN"]

/-- `text` without a sign at its start. -/
def withoutSign : Text → Text
  | '+' :: rest => rest
  | '-' :: rest => rest
  | rest => rest

/-- Whether a text consists of digits after a needless zero, with or without a sign. -/
def isZeroPadded (text : Text) : Bool :=
  match withoutSign text with
  | '0' :: c :: rest => (c :: rest).all Text.isDigit
  | _ => false

/-- The value of digits to a base, if there are any and all belong to the base. -/
def digitsIn? (base : Nat) (digits : Text) : Option Nat := do
  let values ← digits.mapM Text.hexDigit?
  if values.isEmpty || values.any (base ≤ ·) then none
  else some (values.foldl (fun n digit => base * n + digit) 0)

/-- The whole number of a text with a prefix for its base, without a sign. -/
def prefixed? : Text → Option Nat
  | '0' :: 'x' :: digits => digitsIn? 16 digits
  | '0' :: 'o' :: digits => digitsIn? 8 digits
  | '0' :: 'b' :: digits => digitsIn? 2 digits
  | _ => none

/-- Whether a text is a whole number with a prefix for its base that 128 bits can hold:
all of them without a minus sign, and the two's complement with one. -/
def isPrefixedNumber : Text → Bool
  | '-' :: rest => (prefixed? rest).any (· ≤ Nat.pow 2 127)
  | '+' :: rest => (prefixed? rest).any (· < Nat.pow 2 128)
  | rest => (prefixed? rest).any (· < Nat.pow 2 128)

/-- The exponent that a text spells after a number, zero if the text is empty. -/
def exponent? : Text → Option Int
  | [] => some 0
  | e :: rest =>
    let digits := withoutSign rest
    if (e ≠ 'e' ∧ e ≠ 'E') ∨ digits.isEmpty ∨ ¬digits.all Text.isDigit then none
    else if rest.head? = some '-' then some (-Text.digitsValue digits)
    else some (Text.digitsValue digits)

/-- The digits and the exponent of a decimal without a sign. There is a digit before or
after the point. -/
def decimal? (text : Text) : Option (Text × Int) := do
  let whole := text.takeWhile Text.isDigit
  let afterWhole := text.drop whole.length
  let (fraction, rest) := match afterWhole with
    | '.' :: digits => (digits.takeWhile Text.isDigit, digits.dropWhile Text.isDigit)
    | rest => ([], rest)
  let digits := whole ++ fraction
  if digits.isEmpty then none else return (digits, (← exponent? rest) - fraction.length)

/-- The least number that binary64 rounds to infinity: the largest finite number and half
of the step to the next power of two. -/
def overflowBound : Nat := Nat.pow 2 1024 - Nat.pow 2 970

/-- The number of decimal digits of the bound. -/
def overflowDigits : Nat := 309

/-- Whether digits with an exponent of ten stay below the bound. The number of digits before
the point decides unless it is that of the bound or close to it. -/
def isFinite (digits : Text) (exponent : Int) : Bool :=
  let significant := digits.dropWhile (· = '0')
  let places : Int := significant.length + exponent
  if significant.isEmpty ∨ places ≤ 0 then true
  else if (overflowDigits : Int) < places then false
  else
    let value := Text.digitsValue significant
    if 0 ≤ exponent then decide (value * Nat.pow 10 exponent.toNat < overflowBound)
    else decide (value < overflowBound * Nat.pow 10 (-exponent).toNat)

/-- Whether a text is a decimal that is finite in binary64. -/
def isFiniteDecimal (text : Text) : Bool :=
  (decimal? (withoutSign text)).any fun (digits, exponent) => isFinite digits exponent

/-- Whether a plain scalar of this text is, or looks like, something other than a string. -/
def isAmbiguous (text : Text) : Bool :=
  text.isEmpty || constantWords.contains text || unboundedWords.contains text
    || isZeroPadded text || isPrefixedNumber text || isFiniteDecimal text

/-- Words that hold more than their own text are set apart. -/
example : ["", "~", "True", "-.inf", "007", "0x1F", "+0b1", "1.", ".5", "-2e3"].all
    (isAmbiguous ·.toList) = true := by decide +kernel

/-- Words that only come close are not. -/
example : ["yes", "off", "nan", "-.nan", "0x", "0b2", "1_000", ".", "+-1", "1e", "1e400"].any
    (isAmbiguous ·.toList) = false := by decide +kernel

end MaterialNode.Yaml
