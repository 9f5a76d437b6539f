import MaterialNode.Number.Binary64
import MaterialNode.Text.Numeral

/-!
# JSON Values

A JSON document as it is written: numbers keep their digits and objects keep all their
members in order, so that the rules for repeated members and for number types can be
applied where a record is read.
-/

namespace MaterialNode.Json

/-- A number as it is written. -/
structure Number where
  /-- Whether a minus sign precedes it. -/
  negative : Bool
  /-- The digits before the point. -/
  whole : Text
  /-- The digits after the point; empty without a point. -/
  fraction : Text
  /-- The power of ten after the letter `e`, if there is one. -/
  exponent : Option Int
  deriving DecidableEq

/-- How the name of an object member is written. -/
inductive Spelling where
  /-- Without escapes. -/
  | plain
  /-- With escapes. -/
  | escaped
  /-- With an escape that names half of a character only. -/
  | broken
  deriving DecidableEq

/-- The name of an object member. -/
structure Key where
  /-- The name; empty if its spelling is broken. -/
  text : Text
  /-- How the name is written. -/
  spelling : Spelling
  deriving DecidableEq

/-- A JSON value. -/
inductive Value where
  /-- The word `null`. -/
  | null
  /-- The words `true` and `false`. -/
  | bool (value : Bool)
  /-- A number. -/
  | number (value : Number)
  /-- A string. -/
  | string (text : Text)
  /-- A string in which an escape names half of a character only. It may stand where
  values are ignored. -/
  | brokenString
  /-- An array. -/
  | array (items : List Value)
  /-- An object, with repeated members. -/
  | object (members : List (Key × Value))

namespace Number

/-- Whether the number has neither a point nor an exponent. -/
def isWhole (number : Number) : Bool := number.fraction.isEmpty && number.exponent.isNone

/-- The bound of the whole numbers that a reader takes up digit by digit. -/
def wordBound : Nat := 0x10000000000000000

/-- Appends digits to `n` for as long as the result is below `wordBound`, and counts the
digits left over. -/
def takeDigits (n : Nat) : Text → Nat × Nat
  | [] => (n, 0)
  | c :: rest =>
    let next := 10 * n + Text.digitValue c
    if next < wordBound then takeDigits next rest else (n, rest.length + 1)

/-- A whole number below `wordBound` as a machine float. -/
def wordToFloat (n : Nat) : Float := (UInt64.ofNat n).toFloat

/-- The machine float nearest to a power of ten with exponent at most 308. -/
def powerOfTen (exponent : Nat) : Float := Float.ofScientific 1 false exponent

/-- `significand * 10 ^ exponent`, formed by one rounded product or quotient with a power
of ten in range, after a division by `1e308` where the exponent is too small for one.
Numbers too large for a machine float have no value. -/
def scale? (significand : Nat) (exponent : Int) : Option Float :=
  let x := wordToFloat significand
  if significand = 0 then some x
  else if 308 < exponent then none
  else if 0 ≤ exponent then
    let y := x * powerOfTen exponent.toNat
    if y.isInf then none else some y
  else if -308 ≤ exponent then some (x / powerOfTen (-exponent).toNat)
  else if -616 ≤ exponent then some (x / powerOfTen 308 / powerOfTen (-(exponent + 308)).toNat)
  else some 0

/-- The machine float that a number denotes. Digits that no longer fit a word are counted
before the point and dropped after it. Numbers that are too large denote none. -/
def toFloat? (number : Number) : Option Float :=
  let (whole, dropped) := takeDigits 0 number.whole
  let (significand, unread) := takeDigits whole number.fraction
  let exponent : Int :=
    dropped - (number.fraction.length - unread : Nat) + number.exponent.getD 0
  (scale? significand exponent).map fun x => if number.negative then -x else x

/-- The binary64 number that a number denotes. -/
def toBinary64? (number : Number) : Option Binary64 := number.toFloat?.map Binary64.ofFloat

end Number

namespace Value

mutual

/-- Whether a value can be kept: all its strings and numbers have a value, and arrays and
objects are nested in it at most `depth` deep. -/
def isSound (depth : Nat) : Value → Bool
  | .null | .bool _ | .string _ => true
  | .number n => n.toFloat?.isSome
  | .brokenString => false
  | .array items => depth != 0 && areSound (depth - 1) items
  | .object members => depth != 0 && areSoundMembers (depth - 1) members

/-- Whether every item of an array can be kept. -/
def areSound (depth : Nat) : List Value → Bool
  | [] => true
  | item :: rest => isSound depth item && areSound depth rest

/-- Whether every member of an object can be kept. -/
def areSoundMembers (depth : Nat) : List (Key × Value) → Bool
  | [] => true
  | (key, value) :: rest =>
    key.spelling != .broken && isSound depth value && areSoundMembers depth rest

end

end Value
end MaterialNode.Json
