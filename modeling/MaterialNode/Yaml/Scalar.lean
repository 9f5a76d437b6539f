import MaterialNode.Yaml.Cursor

/-!
# Scalars of YAML

A scalar is written plainly, between single or double quotes, or as a block of indented
lines. Plain and quoted scalars may go over several lines; the gap between two words then
stands for a space, or for one break less than it holds. A block keeps its breaks or folds
single ones into spaces.

The readers return a scalar's text with the place after it. Their first argument bounds
the number of steps; every step passes a character.
-/

namespace MaterialNode.Yaml

/-- A text with the place after it. -/
abbrev Scanned := Text × Cursor

/-- What follows a text, with the text before it. -/
def prepend (text : Text) (scanned : Scanned) : Scanned := (text ++ scanned.1, scanned.2)

/-- The gap before the next word of a scalar. -/
inductive Gap where
  /-- No gap. -/
  | none
  /-- Spaces and tabs. -/
  | spaces (text : Text)
  /-- Breaks, with the first one apart. Nothing stands for an escaped first break. -/
  | breaks (first : Text) (others : Text)

namespace Gap

/-- Whether there is no gap. -/
def isNone : Gap → Bool
  | .none => true
  | _ => false

/-- Whether a line ends in the gap. -/
def isBroken : Gap → Bool
  | .breaks .. => true
  | _ => false

/-- The gap with one more space or tab, which counts on the first line only. -/
def addSpace (c : Char) : Gap → Gap
  | .none => .spaces [c]
  | .spaces text => .spaces (text ++ [c])
  | .breaks first others => .breaks first others

/-- The gap with one more break. Spaces before a break do not count. -/
def addBreak (c : Char) : Gap → Gap
  | .breaks first others => .breaks first (others ++ [breakInText c])
  | _ => .breaks [breakInText c] []

/-- What a gap stands for. -/
def text : Gap → Text
  | .none => []
  | .spaces text => text
  | .breaks first others =>
    if first = ['\n'] then if others.isEmpty then [' '] else others else first ++ others

end Gap

/-- Whether a plain scalar ends before the character at a place: in a line that is not
indented enough, at a document marker, a comment, a colon that ends a key, or a bracket or
comma of a flow collection. -/
def plainEnds (inFlow : Bool) (indent : Nat) (gap : Gap) (cursor : Cursor) : Bool :=
  (!gap.isNone && !inFlow && decide (cursor.column < indent)) || cursor.atAnyMarker
    || match cursor.rest with
      | [] => true
      | c :: rest => (!gap.isNone && c = '#') || (c = ':' && wordEnds rest)
        || (inFlow && ",[]\x7b\x7d".toList.contains c)

/-- Whether a colon stands directly before a mark of a flow collection. -/
def colonBeforeMark : Text → Bool
  | ':' :: c :: _ => ",?[]\x7b\x7d".toList.contains c
  | _ => false

/-- Reads a plain scalar from its first character on, given the least column of its
further lines, and tells whether a line ended after it. -/
def plainRest? (inFlow : Bool) (indent : Nat) : Nat → Gap → Cursor → Option (Scanned × Bool)
  | 0, _, _ => none
  | fuel + 1, gap, cursor =>
    match cursor.rest with
    | [] => some (([], cursor), gap.isBroken)
    | c :: rest =>
      if isSpacing c then
        if gap.isBroken && c = '\t' && decide (cursor.column < indent) then none
        else plainRest? inFlow indent fuel (gap.addSpace c) cursor.next
      else if isBreak c then plainRest? inFlow indent fuel (gap.addBreak c) cursor.nextLine
      else if plainEnds inFlow indent gap cursor then some (([], cursor), gap.isBroken)
      else if inFlow && colonBeforeMark (c :: rest) then none
      else (plainRest? inFlow indent fuel .none cursor.next).map fun (scanned, broken) =>
        (prepend (gap.text ++ [c]) scanned, broken)

/-- The character that hexadecimal digits name. -/
def hexCharacter? (digits : Text) : Option Char := do
  let code := (← digits.mapM Text.hexDigit?).foldl (fun n digit => 16 * n + digit) 0
  if (0xD800 ≤ code ∧ code ≤ 0xDFFF) ∨ 0x10FFFF < code then none else some (Char.ofNat code)

/-- The escape of `length` hexadecimal digits at the start of a text. -/
def hexEscape? (length : Nat) (text : Text) : Option (Char × Nat) :=
  if text.length < length then none
  else (hexCharacter? (text.take length)).map fun c => (c, length + 1)

/-- The character that an escape stands for, and the number of characters after the
backslash that spell it. -/
def escape? : Text → Option (Char × Nat)
  | [] => none
  | 'x' :: rest => hexEscape? 2 rest
  | 'u' :: rest => hexEscape? 4 rest
  | 'U' :: rest => hexEscape? 8 rest
  | c :: _ => (letter? c).map fun c => (c, 1)
where
  /-- The character that a one-letter escape stands for. -/
  letter? : Char → Option Char
    | '0' => some '\x00'
    | 'a' => some '\x07'
    | 'b' => some '\x08'
    | 't' => some '\t'
    | '\t' => some '\t'
    | 'n' => some '\n'
    | 'v' => some '\x0b'
    | 'f' => some '\x0c'
    | 'r' => some '\r'
    | 'e' => some '\x1b'
    | ' ' => some ' '
    | '"' => some '"'
    | '/' => some '/'
    | '\\' => some '\\'
    | 'N' => some '\u0085'
    | '_' => some '\u00a0'
    | 'L' => some '\u2028'
    | 'P' => some '\u2029'
    | _ => none

/-- Reads a scalar between single quotes after the opening quote. A quote inside is
written twice. -/
def singleRest? : Nat → Gap → Cursor → Option Scanned
  | 0, _, _ => none
  | fuel + 1, gap, cursor =>
    match cursor.rest with
    | [] => none
    | c :: rest =>
      if isSpacing c then singleRest? fuel (gap.addSpace c) cursor.next
      else if isBreak c then singleRest? fuel (gap.addBreak c) cursor.nextLine
      else if cursor.atAnyMarker then none
      else if c = '\'' then
        if rest.head? = some '\'' then
          (singleRest? fuel .none (cursor.skip 2)).map (prepend (gap.text ++ ['\'']))
        else some (gap.text, cursor.next)
      else (singleRest? fuel .none cursor.next).map (prepend (gap.text ++ [c]))

/-- Reads a scalar between double quotes after the opening quote. A backslash starts an
escape, and before a break it joins the lines. -/
def doubleRest? : Nat → Gap → Cursor → Option Scanned
  | 0, _, _ => none
  | fuel + 1, gap, cursor =>
    match cursor.rest with
    | [] => none
    | c :: rest =>
      if isSpacing c then doubleRest? fuel (gap.addSpace c) cursor.next
      else if isBreak c then doubleRest? fuel (gap.addBreak c) cursor.nextLine
      else if cursor.atAnyMarker then none
      else if c = '"' then some (gap.text, cursor.next)
      else if c = '\\' then
        if rest.head?.any isBreak then
          (doubleRest? fuel (.breaks [] []) cursor.next.nextLine).map (prepend gap.text)
        else match escape? rest with
          | none => none
          | some (escaped, length) =>
            (doubleRest? fuel .none (cursor.skip (1 + length))).map
              (prepend (gap.text ++ [escaped]))
      else (doubleRest? fuel .none cursor.next).map (prepend (gap.text ++ [c]))

/-- What becomes of the breaks at the end of a block. -/
inductive Chomping where
  /-- All are dropped. -/
  | strip
  /-- The first is kept. -/
  | clip
  /-- All are kept. -/
  | keep

namespace Chomping

/-- The chomping that a mark stands for. -/
def ofMark? : Char → Option Chomping
  | '-' => some .strip
  | '+' => some .keep
  | _ => none

/-- The breaks that are left at the end of a block. -/
def tail (chomping : Chomping) (first others : Text) : Text :=
  match chomping with
  | .strip => []
  | .clip => first
  | .keep => first ++ others

end Chomping

/-- The marks after the `|` or `>` that opens a block. -/
structure BlockMarks where
  /-- What becomes of the breaks at the end. -/
  chomping : Chomping
  /-- How far the block is indented, if this is stated. -/
  increment : Option Nat
  /-- The number of marks. -/
  length : Nat

namespace BlockMarks

/-- The indentation that a digit states. -/
def increment? (c : Char) : Option Nat :=
  if Text.isDigit c ∧ c ≠ '0' then some (Text.digitValue c) else none

/-- The marks at the start of a text: a chomping and an indentation in either order. The
indentation is not zero. -/
def ofText? : Text → Option BlockMarks
  | [] => some ⟨.clip, none, 0⟩
  | c :: rest =>
    match Chomping.ofMark? c, rest.head? with
    | some chomping, some d =>
      if Text.isDigit d then (increment? d).map fun n => ⟨chomping, some n, 2⟩
      else some ⟨chomping, none, 1⟩
    | some chomping, none => some ⟨chomping, none, 1⟩
    | none, following =>
      if Text.isDigit c then
        (increment? c).map fun n =>
          match following.bind Chomping.ofMark? with
          | some chomping => ⟨chomping, some n, 2⟩
          | none => ⟨.clip, some n, 1⟩
      else some ⟨.clip, none, 0⟩

end BlockMarks

/-- Passes over the empty lines before a line of a block and over its indentation, and
tells the breaks passed and the greatest column reached. Without a known indentation all
spaces are passed. A tab may not stand in the indentation. -/
def blockBreaks? (indent : Option Nat) : Nat → Nat → Cursor → Option (Scanned × Nat)
  | 0, _, _ => none
  | fuel + 1, deepest, cursor =>
    let deepest := max deepest cursor.column
    match cursor.rest with
    | [] => some (([], cursor), deepest)
    | c :: _ =>
      let inside := indent.all fun indent => decide (cursor.column < indent)
      if c = ' ' && inside then blockBreaks? indent fuel deepest cursor.next
      else if c = '\t' && inside then none
      else if isBreak c then
        (blockBreaks? indent fuel deepest cursor.nextLine).map fun (scanned, deepest) =>
          (prepend [breakInText c] scanned, deepest)
      else some (([], cursor), deepest)

/-- The break at a place, if there is one, with the place after it. -/
def takeBreak (cursor : Cursor) : Scanned :=
  match cursor.rest with
  | [] => ([], cursor)
  | c :: _ => ([breakInText c], cursor.nextLine)

/-- The state of a block before its next line. -/
structure BlockState where
  /-- The break after the line before. -/
  lineBreak : Text
  /-- Whether the line before started with a space or tab. -/
  spaced : Bool
  /-- The breaks of the empty lines since. -/
  emptyLines : Text

/-- What stands between two lines of a block. Folding turns a single break between lines
that do not start with a space into a space. -/
def BlockState.glue (folded : Bool) (state : BlockState) (spaced : Bool) : Text :=
  if folded && state.lineBreak = ['\n'] && !state.spaced && !spaced then
    if state.emptyLines.isEmpty then [' '] else state.emptyLines
  else state.lineBreak ++ state.emptyLines

/-- Reads the lines of a block that are indented by `indent`. -/
def blockLines? (folded : Bool) (chomping : Chomping) (indent : Nat) :
    Nat → BlockState → Cursor → Option Scanned
  | 0, _, _ => none
  | fuel + 1, state, cursor =>
    if cursor.column = indent ∧ ¬cursor.rest.isEmpty then
      let spaced := cursor.rest.head?.any isSpacing
      let line := cursor.rest.takeWhile fun c => !isBreak c
      let (lineBreak, after) := takeBreak cursor.lineEnd
      match blockBreaks? (some indent) (after.rest.length + 1) 0 after with
      | none => none
      | some ((emptyLines, next), _) =>
        (blockLines? folded chomping indent fuel ⟨lineBreak, spaced, emptyLines⟩ next).map
          (prepend (state.glue folded spaced ++ line))
    else some (chomping.tail state.lineBreak state.emptyLines, cursor)

/-- Reads a block after the `|` or `>` that opens it, given the indentation of the
collection that it stands in. -/
def block? (folded : Bool) (outer : Option Nat) (cursor : Cursor) : Option Scanned := do
  let marks ← BlockMarks.ofText? cursor.rest
  let first ← (cursor.skip marks.length).restOfLine?
  let stated := marks.increment.map fun n => outer.getD 0 + n
  let ((emptyLines, start), deepest) ← blockBreaks? stated (first.rest.length + 1) 0 first
  let least := match outer with
    | some column => column + 1
    | none => 1
  blockLines? folded marks.chomping (stated.getD (max deepest least)) (start.rest.length + 1)
    ⟨[], false, emptyLines⟩ start

end MaterialNode.Yaml
