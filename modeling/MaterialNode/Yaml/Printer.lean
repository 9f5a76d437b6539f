import MaterialNode.Yaml.Cursor
import MaterialNode.Yaml.PlainWord

/-!
# Printing YAML

A record is printed as one key with its value to a line. A string is printed plainly where
this is read back as the string and not as a truth value, a number or nothing; otherwise it
is quoted, or printed as a block if it has several lines.
-/

namespace MaterialNode.Yaml

/-- Whether the first character of a text has a meaning there, given whether a word ends
after it. -/
def opensStructure (c : Char) (alone : Bool) : Bool :=
  "#,[]\x7b\x7d&*!|>'\"%@\x60".toList.contains c || ("?:-".toList.contains c && alone)

/-- Whether a colon ends a key or a number sign starts a comment in what follows a
character. -/
def hasStructure (previous : Char) : Text → Bool
  | [] => false
  | c :: rest =>
    (c = ':' && wordEnds rest) || (c = '#' && (isSpacing previous || isBreak previous))
      || hasStructure c rest

/-- Whether a text would be read as something other than one plain scalar. -/
def looksStructured : Text → Bool
  | [] => false
  | c :: rest =>
    Cursor.startMarker.isPrefixOf (c :: rest) || Cursor.endMarker.isPrefixOf (c :: rest)
      || opensStructure c (wordEnds rest) || hasStructure c rest

/-- Whether a space stands directly before a break. -/
def hasSpaceBeforeBreak : Text → Bool
  | ' ' :: c :: rest => isBreak c || hasSpaceBeforeBreak (c :: rest)
  | _ :: rest => hasSpaceBeforeBreak rest
  | [] => false

/-- Whether a space stands directly after a break. -/
def hasSpaceAfterBreak : Text → Bool
  | c :: rest => (isBreak c && rest.head? == some ' ') || hasSpaceAfterBreak rest
  | [] => false

/-- Whether a character cannot stand at the ends of a plain scalar. -/
def isEdge (c : Char) : Bool := c = ' ' || isBreak c

/-- Whether a text can stand in a scalar without escapes. -/
def isLiteral (text : Text) : Bool := text.all isPrintable && !hasSpaceBeforeBreak text

/-- Whether a text can be printed as a block. -/
def canBeBlock (text : Text) : Bool := isLiteral text && text.getLast? != some ' '

/-- Whether a text can be printed between single quotes. -/
def canBeSingle (text : Text) : Bool := isLiteral text && !hasSpaceAfterBreak text

/-- Whether a text can be printed plainly. -/
def canBePlain (text : Text) : Bool :=
  isLiteral text && !text.any isBreak && !text.head?.any isEdge && !text.getLast?.any isEdge
    && !looksStructured text

/-- How a string is printed. -/
inductive Style where
  /-- As it is. -/
  | plain
  /-- Between single quotes. -/
  | single
  /-- Between double quotes, with escapes. -/
  | double
  /-- As a block that keeps its breaks. -/
  | block
  deriving DecidableEq

/-- The style of a string. -/
def Style.ofText (text : Text) : Style :=
  if text.contains '\n' then if canBeBlock text then .block else .double
  else if !isAmbiguous text && canBePlain text then .plain
  else if canBeSingle text then .single
  else .double

/-- A text with the line after each break indented, the first line too if `atStart`
holds. Empty lines are not indented. -/
def indentLines (atStart : Bool) : Text → Text
  | [] => []
  | c :: rest =>
    if isBreak c then c :: indentLines true rest
    else (if atStart then "  ".toList else []) ++ c :: indentLines false rest

/-- The content of a scalar between single quotes. -/
def writeSingle (text : Text) : Text :=
  let doubled := text.flatMap fun c => if c = '\'' then [c, c] else [c]
  indentLines false doubled ++ (if text.getLast?.any isBreak then "  " else "")

/-- A digit of a number written with capital letters. -/
def capitalDigit (n : Nat) : Char :=
  if n < 10 then Char.ofNat ('0'.toNat + n) else Char.ofNat ('A'.toNat + (n - 10))

/-- The last `width` digits of a number to the base sixteen. -/
def hexDigits (n : Nat) : Nat → Text
  | 0 => []
  | width + 1 => hexDigits (n / 16) width ++ [capitalDigit (n % 16)]

/-- The letter that escapes a character, if one does. -/
def escapeLetter? (c : Char) : Option Char :=
  ([('\x00', '0'), ('\x07', 'a'), ('\x08', 'b'), ('\t', 't'), ('\n', 'n'), ('\x0b', 'v'),
    ('\x0c', 'f'), ('\r', 'r'), ('\x1b', 'e'), ('"', '"'), ('\\', '\\'), ('\u0085', 'N'),
    ('\u00a0', '_'), ('\u2028', 'L'), ('\u2029', 'P')] : List (Char × Char)).lookup c

/-- The escape of a character. -/
def writeEscape (c : Char) : Text :=
  match escapeLetter? c with
  | some letter => ['\\', letter]
  | none =>
    if c.toNat ≤ 0xFF then '\\' :: 'x' :: hexDigits c.toNat 2
    else if c.toNat ≤ 0xFFFF then '\\' :: 'u' :: hexDigits c.toNat 4
    else '\\' :: 'U' :: hexDigits c.toNat 8

/-- Whether a character needs an escape between double quotes. -/
def needsEscape (c : Char) : Bool := !isPrintable c || isBreak c || c = '"' || c = '\\'

/-- The content of a scalar between double quotes. -/
def writeDouble (text : Text) : Text :=
  text.flatMap fun c => if needsEscape c then writeEscape c else [c]

/-- The marks of a block: the indentation where the text would hide it, and what becomes
of the breaks at the end. -/
def blockMarks (text : Text) : Text :=
  (if text.head?.any isEdge then "2" else "")
    ++ match text.reverse with
      | [] => "-"
      | [c] => if isBreak c then "+" else "-"
      | c :: d :: _ => if isBreak c then if isBreak d then "+" else "" else "-"

/-- A block with its marks, up to the end of its last line. -/
def writeBlock (text : Text) : Text :=
  '|' :: (blockMarks text ++ '\n' :: indentLines true text)
    ++ (if text.getLast?.any isBreak then "" else "\n")

/-- A string after its key, up to the end of its last line. -/
def writeString (text : Text) : Text :=
  match Style.ofText text with
  | .plain => text ++ "\n".toList
  | .single => '\'' :: (writeSingle text ++ "'\n".toList)
  | .double => '"' :: (writeDouble text ++ "\"\n".toList)
  | .block => writeBlock text

/-- A string that may be missing, after its key. -/
def writeOptional : Option Text → Text
  | some text => writeString text
  | none => "null\n"

/-- A key with its value. -/
def writeEntry (key value : Text) : Text := key ++ ": ".toList ++ value

end MaterialNode.Yaml
