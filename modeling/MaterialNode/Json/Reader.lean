import MaterialNode.Json.Value

/-!
# Reading JSON

A strict reader of RFC 8259 documents: no byte order mark, no comments, no trailing
commas, nothing after the value but blanks. The readers take the text that is left and
return what they read with the text after it.
-/

namespace MaterialNode.Json

/-- Whether a character may stand between tokens. -/
def isSpace (c : Char) : Bool := c = ' ' || c = '\t' || c = '\n' || c = '\r'

/-- `text` without the blanks before the next token. -/
def skipSpace (text : Text) : Text := text.dropWhile isSpace

/-- The number that four hexadecimal digits spell. -/
def hexWord? (a b c d : Char) : Option Nat := do
  return (((← Text.hexDigit? a) * 16 + (← Text.hexDigit? b)) * 16 + (← Text.hexDigit? c)) * 16 + (← Text.hexDigit? d)

/-- The character that a one-letter escape stands for. -/
def simpleEscape? : Char → Option Char
  | '"' => some '"'
  | '\\' => some '\\'
  | '/' => some '/'
  | 'b' => some '\x08'
  | 'f' => some '\x0c'
  | 'n' => some '\n'
  | 'r' => some '\r'
  | 't' => some '\t'
  | _ => none

/-- The content of a string token. -/
structure StringToken where
  /-- The characters, unless an escape names half of a character only. -/
  content? : Option Text
  /-- Whether the string is written without escapes. -/
  plain : Bool

namespace StringToken

/-- The empty string. -/
def empty : StringToken := ⟨some [], true⟩

/-- The string with one more character before the others. -/
def prepend (c : Char) (token : StringToken) : StringToken :=
  { token with content? := token.content?.map (c :: ·) }

/-- The string with one more escaped character before the others. -/
def prependEscaped (c : Char) (token : StringToken) : StringToken :=
  ⟨token.content?.map (c :: ·), false⟩

/-- A string with an escape that names half of a character only. -/
def broken : StringToken := ⟨none, false⟩

/-- The value that a string token stands for. -/
def toValue (token : StringToken) : Value :=
  match token.content? with
  | some content => .string content
  | none => .brokenString

/-- The member name that a string token stands for. -/
def toKey (token : StringToken) : Key :=
  match token.content? with
  | some name => ⟨name, if token.plain then .plain else .escaped⟩
  | none => ⟨[], .broken⟩

end StringToken

/-- Reads a string after its opening quote. -/
def stringRest? : Text → Option (StringToken × Text)
  | [] => none
  | '"' :: rest => some (.empty, rest)
  | '\\' :: 'u' :: a :: b :: c :: d :: rest =>
    match hexWord? a b c d with
    | none => none
    | some high =>
      -- The second half of a pair without its first half.
      if 0xDC00 ≤ high ∧ high < 0xE000 then
        (stringRest? rest).map fun (_, after) => (.broken, after)
      -- The first half of a pair, which the next escape completes.
      else if 0xD800 ≤ high ∧ high < 0xDC00 then
        match rest with
        | '\\' :: 'u' :: e :: f :: g :: h :: rest =>
          match hexWord? e f g h with
          | none => none
          | some low =>
            if 0xDC00 ≤ low ∧ low < 0xE000 then
              let code := 0x10000 + (high - 0xD800) * 0x400 + (low - 0xDC00)
              (stringRest? rest).map fun (token, after) =>
                (token.prependEscaped (Char.ofNat code), after)
            else (stringRest? rest).map fun (_, after) => (.broken, after)
        | rest => (stringRest? rest).map fun (_, after) => (.broken, after)
      else (stringRest? rest).map fun (token, after) =>
        (token.prependEscaped (Char.ofNat high), after)
  | '\\' :: e :: rest =>
    match simpleEscape? e with
    | none => none
    | some c => (stringRest? rest).map fun (token, after) => (token.prependEscaped c, after)
  | c :: rest =>
    if c.toNat < 0x20 then none
    else if c = '\\' then none
    else (stringRest? rest).map fun (token, after) => (token.prepend c, after)

/-- Reads the digits after a point, of which there is at least one. -/
def fractionRest? : Text → Option (Text × Text)
  | '.' :: rest =>
    let digits := rest.takeWhile Text.isDigit
    if digits.isEmpty then none else some (digits, rest.dropWhile Text.isDigit)
  | text => some ([], text)

/-- Reads the power of ten after the letter `e`, if there is one. -/
def exponentRest? (text : Text) : Option (Option Int × Text) :=
  let read (sign : Int) (rest : Text) : Option (Option Int × Text) :=
    let digits := rest.takeWhile Text.isDigit
    if digits.isEmpty then none
    else some (some (sign * Text.digitsValue digits), rest.dropWhile Text.isDigit)
  match text with
  | [] => some (none, [])
  | c :: rest =>
    if c = 'e' ∨ c = 'E' then
      match rest with
      | '+' :: rest => read 1 rest
      | '-' :: rest => read (-1) rest
      | rest => read 1 rest
    else some (none, c :: rest)

/-- Reads a number after its minus sign. A leading zero stands alone. -/
def numberRest? (negative : Bool) (text : Text) : Option (Number × Text) := do
  let whole := text.takeWhile Text.isDigit
  if whole.isEmpty then none
  else if whole.length ≠ 1 ∧ whole.head? = some '0' then none
  else
    let (fraction, rest) ← fractionRest? (text.dropWhile Text.isDigit)
    let (exponent, rest) ← exponentRest? rest
    return (⟨negative, whole, fraction, exponent⟩, rest)

/-- Reads a given word. -/
def word? (word text : Text) : Option Text :=
  if word.isPrefixOf text then some (text.drop word.length) else none

mutual

/-- Reads a value. `fuel` bounds the number of steps. -/
def value? (fuel : Nat) (text : Text) : Option (Value × Text) :=
  match fuel with
  | 0 => none
  | fuel + 1 =>
    match skipSpace text with
    | [] => none
    | '"' :: rest => (stringRest? rest).map fun (token, rest) => (token.toValue, rest)
    | '[' :: rest =>
      match skipSpace rest with
      | ']' :: rest => some (.array [], rest)
      | rest => (items? fuel rest).map fun (items, rest) => (.array items, rest)
    | '{' :: rest =>
      match skipSpace rest with
      | '}' :: rest => some (.object [], rest)
      | rest => (members? fuel rest).map fun (members, rest) => (.object members, rest)
    | '-' :: rest => (numberRest? true rest).map fun (number, rest) => (.number number, rest)
    | 'n' :: rest => (word? "ull" rest).map fun rest => (.null, rest)
    | 't' :: rest => (word? "rue" rest).map fun rest => (.bool true, rest)
    | 'f' :: rest => (word? "alse" rest).map fun rest => (.bool false, rest)
    | rest => (numberRest? false rest).map fun (number, rest) => (.number number, rest)

/-- Reads the items of an array from the first to the closing bracket. -/
def items? (fuel : Nat) (text : Text) : Option (List Value × Text) :=
  match fuel with
  | 0 => none
  | fuel + 1 =>
    match value? fuel text with
    | none => none
    | some (item, rest) =>
      match skipSpace rest with
      | ']' :: rest => some ([item], rest)
      | ',' :: rest => (items? fuel rest).map fun (items, rest) => (item :: items, rest)
      | _ => none

/-- Reads the members of an object from the first to the closing brace. -/
def members? (fuel : Nat) (text : Text) : Option (List (Key × Value) × Text) :=
  match fuel with
  | 0 => none
  | fuel + 1 =>
    match skipSpace text with
    | '"' :: rest =>
      match stringRest? rest with
      | some (token, rest) =>
        match skipSpace rest with
        | ':' :: rest =>
          match value? fuel rest with
          | none => none
          | some (value, rest) =>
            match skipSpace rest with
            | '}' :: rest => some ([(token.toKey, value)], rest)
            | ',' :: rest =>
              (members? fuel rest).map fun (members, rest) =>
                ((token.toKey, value) :: members, rest)
            | _ => none
        | _ => none
      | none => none
    | _ => none

end

/-- Reads a document: one value with blanks around it. Every step takes a character, so
two steps per character are enough. -/
def read? (text : Text) : Option Value :=
  match value? (2 * text.length + 2) text with
  | some (value, rest) => if (skipSpace rest).isEmpty then some value else none
  | none => none

end MaterialNode.Json
