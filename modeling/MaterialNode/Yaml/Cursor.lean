import MaterialNode.Yaml.Character

/-!
# Places in a YAML Document

The structure of a document depends on lines and columns, so the reader carries the text
that is left together with its place.
-/

namespace MaterialNode.Yaml

/-- A place in a document. -/
structure Cursor where
  /-- The text from the place on. -/
  rest : Text
  /-- The number of bytes before the place. -/
  offset : Nat
  /-- The number of lines before the line of the place. -/
  line : Nat
  /-- The number of characters before the place on its line. -/
  column : Nat

namespace Cursor

/-- The start of a document. -/
def start (text : Text) : Cursor := ⟨text, 0, 0, 0⟩

/-- The place after `count` further characters of the same line. -/
def skip (cursor : Cursor) (count : Nat) : Cursor :=
  ⟨cursor.rest.drop count, cursor.offset + Text.byteLength (cursor.rest.take count), cursor.line,
    cursor.column + count⟩

/-- The place after the next character. -/
def next (cursor : Cursor) : Cursor := cursor.skip 1

/-- The place after a break. A carriage return and a line feed are one break. -/
def nextLine (cursor : Cursor) : Cursor :=
  let length := match cursor.rest with
    | '\r' :: '\n' :: _ => 2
    | _ => 1
  { cursor.skip length with line := cursor.line + 1, column := 0 }

/-- The place after the spaces and tabs at a place. -/
def skipSpacing (cursor : Cursor) : Cursor :=
  cursor.skip (cursor.rest.takeWhile isSpacing).length

/-- The place at the end of the line. -/
def lineEnd (cursor : Cursor) : Cursor :=
  cursor.skip (cursor.rest.takeWhile fun c => !isBreak c).length

/-- Whether a line starts here that consists of a document marker, or starts with one and
a space. -/
def atMarker (cursor : Cursor) (marker : Text) : Bool :=
  cursor.column == 0 && marker.isPrefixOf cursor.rest && wordEnds (cursor.rest.drop 3)

/-- The marker before a document. -/
def startMarker : Text := "---"

/-- The marker after a document. -/
def endMarker : Text := "..."

/-- Whether a document marker stands here. -/
def atAnyMarker (cursor : Cursor) : Bool :=
  cursor.atMarker startMarker || cursor.atMarker endMarker

/-- The place after the rest of a line that may only hold spaces and a comment. -/
def restOfLine? (cursor : Cursor) : Option Cursor :=
  let cursor := cursor.skipSpacing
  let cursor := if cursor.rest.head? = some '#' then cursor.lineEnd else cursor
  match cursor.rest with
  | [] => some cursor
  | c :: _ => if isBreak c then some cursor.nextLine else none

end Cursor
end MaterialNode.Yaml
