/-!
# Text

Text is a list of Unicode characters, so that every scan of a shader line, a path or a
document is a recursion on the data. This module holds the type, the decimal spelling of
numbers, and the cutting and joining at separators.
-/

namespace MaterialNode

/-- A text is the list of its characters. -/
abbrev Text := List Char

/-- A string literal stands for the text of its characters. -/
instance : Coe String Text := ⟨String.toList⟩

namespace Text

/-- The text of a string. -/
def ofString (s : String) : Text := s.toList

/-- The string of a text, for the outer layer that prints it. -/
def toString (text : Text) : String := String.ofList text

/-- The number of bytes of a text in UTF-8. -/
def byteLength : Text → Nat
  | [] => 0
  | c :: rest => c.utf8Size + byteLength rest

/-- Decimal spelling of a natural number, without leading zeros. -/
def ofNat (n : Nat) : Text := Nat.toDigits 10 n

/-- Decimal spelling of an integer, with a minus sign when it is negative. -/
def ofInt (i : Int) : Text :=
  if i < 0 then '-' :: ofNat i.natAbs else ofNat i.natAbs

/-- The words `true` and `false`. -/
def ofBool (b : Bool) : Text := if b then "true" else "false"

/-- `text` widened to at least `width` characters by spaces on its left. -/
def padLeft (width : Nat) (text : Text) : Text :=
  List.replicate (width - text.length) ' ' ++ text

/-- `text` widened to at least `width` characters by spaces on its right. -/
def padRight (width : Nat) (text : Text) : Text :=
  text ++ List.replicate (width - text.length) ' '

/-- The texts of `items` with `separator` between neighbours. -/
def joinWith (separator : Text) : List Text → Text
  | [] => []
  | [item] => item
  | item :: rest => item ++ separator ++ joinWith separator rest

/-- The pieces of a text between occurrences of a separator character. There is always
one piece more than there are separators. -/
def fields (separator : Char) : Text → List Text
  | [] => [[]]
  | c :: rest =>
    if c = separator then [] :: fields separator rest
    else match fields separator rest with
      | [] => [[c]]
      | piece :: pieces => (c :: piece) :: pieces

/-- Every capital letter from `A` to `Z` replaced by its small letter. -/
def lowerAscii (text : Text) : Text :=
  text.map fun c => if 'A'.toNat ≤ c.toNat ∧ c.toNat ≤ 'Z'.toNat then Char.ofNat (c.toNat + 32) else c

/-- The bytes of a text are those of its parts. -/
theorem byteLength_append (first second : Text) :
    byteLength (first ++ second) = byteLength first + byteLength second := by
  induction first with
  | nil => simp [byteLength]
  | cons c rest ih => simp [byteLength, ih, Nat.add_assoc]

/-- Cutting at a separator leaves at least one piece. -/
theorem fields_ne_nil (separator : Char) (text : Text) : fields separator text ≠ [] := by
  cases text with
  | nil => simp [fields]
  | cons c rest =>
    simp only [fields]
    split
    · simp
    · split <;> simp

end Text
end MaterialNode
