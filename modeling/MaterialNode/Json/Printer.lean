import MaterialNode.Json.Value

/-!
# Printing JSON

A document is printed with one member or item to a line, each level indented by two
spaces. Strings escape the quote, the backslash and the control characters only.
-/

namespace MaterialNode.Json

/-- The spelling of a character inside a string. -/
def writeChar (c : Char) : Text :=
  if c = '"' then "\\\""
  else if c = '\\' then "\\\\"
  else if c = '\x08' then "\\b"
  else if c = '\x0c' then "\\f"
  else if c = '\n' then "\\n"
  else if c = '\r' then "\\r"
  else if c = '\t' then "\\t"
  else if c.toNat < 0x20 then
    let digits := Nat.toDigits 16 c.toNat
    "\\u" ++ List.replicate (4 - digits.length) '0' ++ digits
  else [c]

/-- A string token. -/
def writeString (text : Text) : Text := '"' :: (text.flatMap writeChar ++ ['"'])

/-- A number as it was written. -/
def Number.write (number : Number) : Text :=
  (if number.negative then "-" else "") ++ number.whole
    ++ (if number.fraction.isEmpty then [] else '.' :: number.fraction)
    ++ (match number.exponent with
      | some exponent => 'e' :: Text.ofInt exponent
      | none => [])

/-- A new line at the given level of indentation. -/
def newLine (level : Nat) : Text := '\n' :: List.replicate (2 * level) ' '

namespace Value

mutual

/-- A value inside `level` arrays and objects. -/
def write (level : Nat) : Value → Text
  | .null | .brokenString => "null"
  | .bool value => Text.ofBool value
  | .number value => value.write
  | .string text => writeString text
  | .array [] => "[]"
  | .array (item :: items) =>
    '[' :: newLine (level + 1) ++ write (level + 1) item ++ writeItems (level + 1) items
      ++ newLine level ++ [']']
  | .object [] => "\x7b\x7d"
  | .object ((key, value) :: members) =>
    '{' :: newLine (level + 1) ++ writeString key.text ++ ": ".toList ++ write (level + 1) value
      ++ writeMembers (level + 1) members ++ newLine level ++ ['}']

/-- The items after the first of an array, each after a comma. -/
def writeItems (level : Nat) : List Value → Text
  | [] => []
  | item :: items => ',' :: newLine level ++ write level item ++ writeItems level items

/-- The members after the first of an object, each after a comma. -/
def writeMembers (level : Nat) : List (Key × Value) → Text
  | [] => []
  | (key, value) :: members =>
    ',' :: newLine level ++ writeString key.text ++ ": ".toList ++ write level value
      ++ writeMembers level members

end

/-- The document that holds a value. -/
def print (value : Value) : Text := write 0 value

end Value
end MaterialNode.Json
