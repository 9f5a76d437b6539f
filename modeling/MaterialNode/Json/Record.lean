import MaterialNode.Json.Value
import MaterialNode.Table

/-!
# Records in JSON

A record is an object whose members are its fields. Members with other names are ignored,
and a field may not be repeated. A record may also be written as the array of its fields
in the order of their declaration, from which fields with a default may be missing at the
end.

A map is an object whose members are its entries; the last entry with a key counts.
-/

namespace MaterialNode.Json

/-- The member with the given name. -/
def member? (name : Text) : List (Key × Value) → Option Value
  | [] => none
  | (key, value) :: rest => if key.text = name then some value else member? name rest

/-- The number of members with the given name. -/
def memberCount (name : Text) (members : List (Key × Value)) : Nat :=
  members.countP fun entry => decide (entry.1.text = name)

/-- Whether every member name of an object names characters only. -/
def keysAreSound (members : List (Key × Value)) : Bool :=
  members.all fun entry => entry.1.spelling != .broken

/-- The values of the fields `names` of a record, each `none` where it is missing. -/
def Value.fields? (names : List Text) : Value → Option (List (Option Value))
  | .object members =>
    if keysAreSound members && names.all fun name => decide (memberCount name members ≤ 1) then
      some (names.map fun name => member? name members)
    else none
  | .array items =>
    if items.length ≤ names.length then
      some ((List.range names.length).map fun index => items[index]?)
    else none
  | _ => none

/-- The entries of a map in the order of the document. -/
def Value.members? : Value → Option (List (Key × Value))
  | .object members => if keysAreSound members then some members else none
  | _ => none

/-- The characters of a string. -/
def Value.text? : Value → Option Text
  | .string content => some content
  | _ => none

/-- A truth value. -/
def Value.bool? : Value → Option Bool
  | .bool truth => some truth
  | _ => none

/-- The items of an array. -/
def Value.items? : Value → Option (List Value)
  | .array items => some items
  | _ => none

/-- A number as a binary64 number. Whole numbers are numbers. -/
def Value.binary64? : Value → Option Binary64
  | .number written => written.toBinary64?
  | _ => none

/-- A choice among words, as the word or as an object with the word as its only member and
`null` as the value. -/
def Value.word? : Value → Option Text
  | .string word => some word
  | .object [(key, .null)] => if key.spelling = .broken then none else some key.text
  | _ => none

/-- A field with a default. -/
def orDefault {α : Type} (read : Value → Option α) (default : α) : Option Value → Option α
  | some value => read value
  | none => some default

/-- A field that may be missing or `null`. -/
def optional {α : Type} (read : Value → Option α) : Option Value → Option (Option α)
  | some .null => some none
  | some value => (read value).map some
  | none => some none

/-- A field that must be present. -/
def required {α : Type} (read : Value → Option α) : Option Value → Option α
  | some value => read value
  | none => none

/-- A register number or count that names an entry: decimal digits without a sign, a
leading zero or escapes. -/
def Key.register? (key : Key) : Option Nat :=
  if key.spelling = .plain ∧ ¬key.text.isEmpty ∧ key.text.all Text.isDigit
      ∧ (key.text.length = 1 ∨ key.text.head? ≠ some '0')
      ∧ Text.digitsValue key.text < Text.registerBound then
    some (Text.digitsValue key.text)
  else none

/-- The map with the given entries, each key and value read by its own reader. -/
def readTable? {κ ν : Type} [SortKey κ] (readKey : Key → Option κ) (readValue : Value → Option ν) :
    List (Key × Value) → Table κ ν → Option (Table κ ν)
  | [], table => some table
  | (key, value) :: rest, table => do
    readTable? readKey readValue rest (table.insert (← readKey key) (← readValue value))

end MaterialNode.Json
