import MaterialNode.Yaml.Scalar
import MaterialNode.Yaml.Tag

/-!
# Tokens of YAML

A document is cut into tokens. Block collections have no brackets: the tokens that open
and close them follow from the columns of their entries. A key is recognised by the colon
after it, so the scanner remembers where one may have begun, and the tokens before a key
are put in when its colon is found.
-/

namespace MaterialNode.Yaml

/-- A token. -/
inductive Token where
  /-- The line before a document that states its version. -/
  | version (major minor : Nat)
  /-- A line before a document that introduces a handle for the start of tags. -/
  | tagHandle (handle : Text) (start : Tag)
  /-- The marker before a document. -/
  | documentStart
  /-- The marker after a document. -/
  | documentEnd
  /-- The first entry of a block sequence follows. -/
  | blockSequence
  /-- The first key of a block mapping follows. -/
  | blockMapping
  /-- The innermost block collection ends. -/
  | blockEnd
  /-- `[` -/
  | openSequence
  /-- `]` -/
  | closeSequence
  /-- An opening brace. -/
  | openMapping
  /-- A closing brace. -/
  | closeMapping
  /-- The dash before an entry of a block sequence. -/
  | blockEntry
  /-- The comma between entries of a flow collection. -/
  | flowEntry
  /-- A key follows. -/
  | key
  /-- A value follows. -/
  | value
  /-- A reference to an anchored node. -/
  | alias (name : Text)
  /-- The name of the node that follows. -/
  | anchor (name : Text)
  /-- The tag of the node that follows, by its handle and what comes after the start that
  the handle stands for. A tag that is spelled out has the empty handle. -/
  | tag (handle : Text) (suffix : Tag)
  /-- A scalar and whether it is written plainly. -/
  | scalar (plain : Bool) (text : Text)
  deriving DecidableEq

/-- A place where a key may have begun. -/
structure KeyStart where
  /-- The number of tokens before it. -/
  tokensBefore : Nat
  /-- Where it begins. -/
  place : Cursor
  /-- Whether only a key can stand there. -/
  required : Bool

/-- The state of the cutting of a document into tokens. -/
structure Scanner where
  /-- The place in the document. -/
  cursor : Cursor
  /-- The tokens so far, the first one first. -/
  tokens : List Token
  /-- The columns of the open block collections, the innermost first. -/
  columns : List Nat
  /-- The places where a key may have begun: one outside and one for every open flow
  collection, the innermost first. -/
  keyStarts : List (Option KeyStart)
  /-- Whether a key may begin here. -/
  keyAllowed : Bool

namespace Scanner

/-- The state at the start of a document. -/
def start (text : Text) : Scanner := ⟨.start text, [], [], [none], true⟩

/-- Whether the place is inside a flow collection. -/
def inFlow (scanner : Scanner) : Bool := decide (1 < scanner.keyStarts.length)

/-- The least column of the content of the innermost block collection. -/
def contentColumn (scanner : Scanner) : Nat :=
  match scanner.columns with
  | [] => 0
  | column :: _ => column + 1

/-- The state with one more token. -/
def emit (scanner : Scanner) (token : Token) : Scanner :=
  { scanner with tokens := scanner.tokens ++ [token] }

/-- The state at another place. -/
def moveTo (scanner : Scanner) (cursor : Cursor) : Scanner := { scanner with cursor := cursor }

/-- The state after a token of `length` characters. -/
def emitMark (scanner : Scanner) (token : Token) (length : Nat) : Scanner :=
  (scanner.emit token).moveTo (scanner.cursor.skip length)

/-- The state with a token put in before others. -/
def insertToken (scanner : Scanner) (place : Nat) (token : Token) : Scanner :=
  { scanner with tokens := scanner.tokens.take place ++ token :: scanner.tokens.drop place }

/-- The state in which a key may begin or not. -/
def allowKey (scanner : Scanner) (allowed : Bool) : Scanner :=
  { scanner with keyAllowed := allowed }

/-- Passes over spaces, comments and breaks. A tab is passed only where no key may begin,
because it may not indent one. A byte order mark may start a line. -/
def skipBlanks : Nat → Scanner → Scanner
  | 0, scanner => scanner
  | fuel + 1, scanner =>
    match scanner.cursor.rest with
    | [] => scanner
    | c :: _ =>
      if c = ' ' ∨ (c = '\t' ∧ (scanner.inFlow ∨ ¬scanner.keyAllowed))
          ∨ (c = '\uFEFF' ∧ scanner.cursor.column = 0) then
        skipBlanks fuel (scanner.moveTo scanner.cursor.next)
      else if c = '#' then skipBlanks fuel (scanner.moveTo scanner.cursor.lineEnd)
      else if isBreak c then
        skipBlanks fuel
          ((scanner.moveTo scanner.cursor.nextLine).allowKey
            (scanner.keyAllowed || !scanner.inFlow))
      else scanner

/-- The most bytes that a key may have. -/
def maxKeyLength : Nat := 1024

/-- Whether a place is too far away to belong to the key that may have begun at another. -/
def isStale (cursor : Cursor) (keyStart : KeyStart) : Bool :=
  decide (keyStart.place.line < cursor.line)
    || decide (keyStart.place.offset + maxKeyLength < cursor.offset)

/-- Forgets the starts of keys that are too far away. It fails where only a key could have
stood. -/
def forgetStale? (scanner : Scanner) : Option Scanner :=
  let stale := isStale scanner.cursor
  if scanner.keyStarts.any fun start => start.any fun start => stale start && start.required then
    none
  else some { scanner with keyStarts := scanner.keyStarts.map (Option.filter (!stale ·)) }

/-- Forgets the start of a key at the innermost level. It fails where only a key could
have stood. -/
def forgetKey? (scanner : Scanner) : Option Scanner :=
  match scanner.keyStarts with
  | [] => some scanner
  | start :: rest =>
    if start.any (·.required) then none else some { scanner with keyStarts := none :: rest }

/-- Remembers that a key may begin here, if it may. -/
def markKey? (scanner : Scanner) : Option Scanner :=
  if scanner.keyAllowed then do
    let scanner ← scanner.forgetKey?
    let required := !scanner.inFlow && scanner.columns.head? == some scanner.cursor.column
    let start : KeyStart := ⟨scanner.tokens.length, scanner.cursor, required⟩
    return { scanner with keyStarts := some start :: scanner.keyStarts.drop 1 }
  else some scanner

/-- Closes the block collections whose columns do not satisfy `stays`, from the innermost
one on. Flow collections are closed by brackets alone. -/
def closeBlocks (scanner : Scanner) (stays : Nat → Bool) : Scanner :=
  if scanner.inFlow then scanner
  else
    let closed := (scanner.columns.takeWhile fun column => !stays column).length
    { scanner with
      tokens := scanner.tokens ++ List.replicate closed .blockEnd
      columns := scanner.columns.drop closed }

/-- Opens a block collection at a column if it is further in than the open ones. -/
def openBlock (scanner : Scanner) (column tokensBefore : Nat) (token : Token) : Scanner :=
  if !scanner.inFlow && decide (scanner.contentColumn ≤ column) then
    { scanner.insertToken tokensBefore token with columns := column :: scanner.columns }
  else scanner

/-- The state before a document marker or directives: all block collections end. -/
def endBlocks? (scanner : Scanner) : Option Scanner := do
  return (← (scanner.closeBlocks fun _ => false).forgetKey?).allowKey false

/-- Reads the marker before or after a document. -/
def marker? (scanner : Scanner) (token : Token) : Option Scanner := do
  return (← scanner.endBlocks?).emitMark token 3

/-- The most digits that a number of a version may have. -/
def maxVersionDigits : Nat := 9

/-- Reads a number of a version. -/
def versionNumber? (cursor : Cursor) : Option (Nat × Cursor) :=
  let digits := cursor.rest.takeWhile Text.isDigit
  if digits.isEmpty ∨ maxVersionDigits < digits.length then none
  else some (Text.digitsValue digits, cursor.skip digits.length)

/-- Reads the version of a document. -/
def version? (cursor : Cursor) : Option (Token × Cursor) := do
  let (major, point) ← versionNumber? cursor.skipSpacing
  if point.rest.head? ≠ some '.' then none
  else
    let (minor, after) ← versionNumber? point.next
    return (.version major minor, after)

/-- The handle at the start of a text: a mark, and a name with a mark after it, if there is
one. -/
def handleAt : Text → Text
  | [] => []
  | mark :: rest =>
    let name := rest.takeWhile isNameChar
    mark :: name ++ (if (rest.drop name.length).head? = some '!' then ['!'] else [])

/-- Reads the octets of a tag. There is at least one. -/
def tagOctets? (stands : Char → Bool) (cursor : Cursor) : Option (List UInt8 × Cursor) := do
  let (octets, after) ← Tag.read? stands 0 cursor.rest
  if octets.isEmpty then none
  else return (octets, cursor.skip (cursor.rest.length - after.length))

/-- Reads a handle and the start of tags that it stands for. -/
def tagHandle? (cursor : Cursor) : Option (Token × Cursor) := do
  let cursor := cursor.skipSpacing
  let handle := handleAt cursor.rest
  let named := cursor.skip handle.length
  if handle.head? ≠ some '!' ∨ handle.getLast? ≠ some '!' ∨ ¬named.rest.head?.any isSpacing then
    none
  else
    let (octets, after) ← tagOctets? isBracketedTagChar named.skipSpacing
    if wordEnds after.rest then return (.tagHandle handle (Tag.upToZero octets), after) else none

/-- Reads a directive for the document: a percent sign, a word, and what the word
calls for. -/
def directive? (scanner : Scanner) : Option Scanner := do
  let scanner ← scanner.endBlocks?
  let cursor := scanner.cursor.next
  let word := cursor.rest.takeWhile isNameChar
  let named := cursor.skip word.length
  if !wordEnds named.rest then none
  else
    let (token, after) ←
      if word = "YAML".toList then version? named
      else if word = "TAG".toList then tagHandle? named
      else none
    return (scanner.emit token).moveTo (← after.restOfLine?)

/-- Reads the bracket that opens a flow collection. -/
def openFlow? (scanner : Scanner) (token : Token) : Option Scanner := do
  let scanner ← scanner.markKey?
  return { (scanner.emitMark token 1).allowKey true with keyStarts := none :: scanner.keyStarts }

/-- Reads the bracket that closes a flow collection. -/
def closeFlow? (scanner : Scanner) (token : Token) : Option Scanner := do
  let scanner ← scanner.forgetKey?
  let outside := if scanner.inFlow then scanner.keyStarts.drop 1 else scanner.keyStarts
  return { (scanner.emitMark token 1).allowKey false with keyStarts := outside }

/-- Reads the dash before an entry. -/
def entryMark? (scanner : Scanner) : Option Scanner := do
  if !scanner.inFlow && !scanner.keyAllowed then none
  else
    let opened := scanner.openBlock scanner.cursor.column scanner.tokens.length .blockSequence
    return ((← opened.forgetKey?).allowKey true).emitMark .blockEntry 1

/-- Reads the question mark before a key. -/
def keyMark? (scanner : Scanner) : Option Scanner := do
  if !scanner.inFlow && !scanner.keyAllowed then none
  else
    let opened := scanner.openBlock scanner.cursor.column scanner.tokens.length .blockMapping
    return ((← opened.forgetKey?).allowKey !scanner.inFlow).emitMark .key 1

/-- Reads the colon before a value. Where a key began on the line, the tokens that belong
before it are put in. -/
def valueMark? (scanner : Scanner) : Option Scanner :=
  match scanner.keyStarts with
  | some start :: outer =>
    let keyed := { scanner.insertToken start.tokensBefore .key with keyStarts := none :: outer }
    let opened := keyed.openBlock start.place.column start.tokensBefore .blockMapping
    some ((opened.allowKey false).emitMark .value 1)
  | _ =>
    if !scanner.inFlow && !scanner.keyAllowed then none
    else
      let opened := scanner.openBlock scanner.cursor.column scanner.tokens.length .blockMapping
      some ((opened.allowKey !scanner.inFlow).emitMark .value 1)

/-- Reads an anchor or alias after its mark. -/
def name? (cursor : Cursor) : Option Scanned :=
  let name := cursor.rest.takeWhile isNameChar
  let after := cursor.skip name.length
  if name.isEmpty then none
  else if wordEnds after.rest || after.rest.head?.any ("?:,]\x7d%@\x60".toList.contains ·) then
    some (name, after)
  else none

/-- Reads a tag. Between angle brackets it is spelled out. Else it has a handle with a name
or with two marks; without such a handle it is a local tag, and a lone mark is a tag that
is spelled out. -/
def tag? (cursor : Cursor) : Option (Token × Cursor) := do
  let handle := handleAt cursor.rest
  if (cursor.rest.drop 1).head? = some '<' then
    let (octets, after) ← tagOctets? isBracketedTagChar (cursor.skip 2)
    if after.rest.head? = some '>' then return (.tag [] (Tag.upToZero octets), after.next)
    else none
  else if 1 < handle.length ∧ handle.getLast? = some '!' then
    let (octets, after) ← tagOctets? isTagChar (cursor.skip handle.length)
    return (.tag handle (Tag.upToZero octets), after)
  else
    let (octets, after) ← Tag.read? isTagChar 0 (cursor.rest.drop 1)
    let suffix := Tag.upToZero octets
    return (if suffix.isEmpty then .tag [] [Tag.localMark] else .tag ['!'] suffix,
      cursor.skip (cursor.rest.length - after.length))

/-- Whether a tag may end here. -/
def tagEnds (scanner : Scanner) (cursor : Cursor) : Bool :=
  wordEnds cursor.rest || (scanner.inFlow && cursor.rest.head? == some ',')

/-- Reads what the readers of scalars, anchors, aliases and tags have in common: a key may
begin with it, and none may begin directly after it. -/
def keyPart? (scanner : Scanner) (read : Cursor → Option (Token × Cursor)) : Option Scanner := do
  let scanner ← scanner.markKey?
  let (token, after) ← read scanner.cursor
  return ((scanner.allowKey false).emit token).moveTo after

/-- The number of steps that is enough to read what starts at a place. -/
def fuelAt (cursor : Cursor) : Nat := cursor.rest.length + 1

/-- Reads a plain scalar. A key may begin on the line after it. -/
def plain? (scanner : Scanner) : Option Scanner := do
  let scanner ← scanner.markKey?
  let ((text, after), broken) ←
    plainRest? scanner.inFlow scanner.contentColumn (fuelAt scanner.cursor) .none scanner.cursor
  return ((scanner.allowKey broken).emit (.scalar true text)).moveTo after

/-- Reads a block scalar. -/
def blockScalar? (scanner : Scanner) (folded : Bool) : Option Scanner := do
  let scanner ← scanner.forgetKey?
  let (text, after) ← block? folded scanner.columns.head? scanner.cursor.next
  return ((scanner.allowKey true).emit (.scalar false text)).moveTo after

/-- Whether a plain scalar may begin at the start of a text. -/
def startsPlain (inFlow : Bool) : Text → Bool
  | [] => false
  | c :: rest =>
    if c = '-' then !rest.head?.any isSpacing
    else if c = '?' ∨ c = ':' then !inFlow && !wordEnds rest
    else !isSpacing c && !",[]\x7b\x7d#&*!|>'\"%@\x60".toList.contains c

/-- Reads the next token, which starts at the place of the scanner. -/
def token? (scanner : Scanner) : Option Scanner :=
  let cursor := scanner.cursor
  match cursor.rest with
  | [] => none
  | c :: rest =>
    -- Directives and document markers start in the first column.
    if cursor.column = 0 ∧ c = '%' then scanner.directive?
    else if cursor.atMarker Cursor.startMarker then scanner.marker? .documentStart
    else if cursor.atMarker Cursor.endMarker then scanner.marker? .documentEnd
    -- Flow collections are enclosed in brackets and may go over lines freely.
    else if c = '[' then scanner.openFlow? .openSequence
    else if c = '{' then scanner.openFlow? .openMapping
    else if c = ']' then scanner.closeFlow? .closeSequence
    else if c = '}' then scanner.closeFlow? .closeMapping
    else if c = ',' then
      scanner.forgetKey?.map fun scanner => (scanner.allowKey true).emitMark .flowEntry 1
    -- These marks count only where a word ends after them; else they start a plain scalar.
    else if c = '-' ∧ wordEnds rest then scanner.entryMark?
    else if c = '?' ∧ (scanner.inFlow ∨ wordEnds rest) then scanner.keyMark?
    else if c = ':' ∧ (scanner.inFlow ∨ wordEnds rest) then scanner.valueMark?
    -- What follows may be a key, which the colon after it will show.
    else if c = '*' then
      scanner.keyPart? fun cursor =>
        (name? cursor.next).map fun (name, after) => (.alias name, after)
    else if c = '&' then
      scanner.keyPart? fun cursor =>
        (name? cursor.next).map fun (name, after) => (.anchor name, after)
    else if c = '!' then
      scanner.keyPart? fun cursor => do
        let (token, after) ← tag? cursor
        if scanner.tagEnds after then return (token, after) else none
    else if c = '|' ∧ ¬scanner.inFlow then scanner.blockScalar? false
    else if c = '>' ∧ ¬scanner.inFlow then scanner.blockScalar? true
    else if c = '\'' then
      scanner.keyPart? fun cursor =>
        (singleRest? (fuelAt cursor) .none cursor.next).map fun (text, after) =>
          (.scalar false text, after)
    else if c = '"' then
      scanner.keyPart? fun cursor =>
        (doubleRest? (fuelAt cursor) .none cursor.next).map fun (text, after) =>
          (.scalar false text, after)
    else if startsPlain scanner.inFlow (c :: rest) then scanner.plain?
    else none

/-- The tokens of the rest of a document. -/
def run? : Nat → Scanner → Option (List Token)
  | 0, _ => none
  | fuel + 1, scanner => do
    let scanner ← (scanner.skipBlanks (fuelAt scanner.cursor)).forgetStale?
    if scanner.cursor.rest.isEmpty then return (← scanner.endBlocks?).tokens
    else
      let column := scanner.cursor.column
      run? fuel (← (scanner.closeBlocks fun outer => decide (outer ≤ column)).token?)

end Scanner

/-- The tokens of a document, unless it holds characters that no document may hold or
breaks the rules of tokens. -/
def Token.ofText? (text : Text) : Option (List Token) :=
  if text.all isAdmitted then Scanner.run? (text.length + 1) (.start text) else none

end MaterialNode.Yaml
