import MaterialNode.Table
import MaterialNode.Yaml.Token

/-!
# Nodes of YAML

The tokens of a document make up one node: a scalar, a sequence or a mapping. A value that
is left out is an empty plain scalar, and so is a document without content. A node may be
anchored under a name, and an alias stands for a node by that name.

Names become numbers while a document is read: an anchor has the number of names before
it. A name that is anchored again counts as one of them, so its new number may also be that
of the next name. Of nodes with one number the last in the document is the one meant.

The readers take the tokens that are left and return what they read with the tokens after
it. Their first argument bounds the number of steps.
-/

namespace MaterialNode.Yaml

/-- A node of a document. -/
inductive Node where
  /-- A scalar with its tag, whether it is written plainly, and its text. -/
  | scalar (tag : Option Tag) (plain : Bool) (text : Text)
  /-- A list of nodes. -/
  | sequence (items : List Node)
  /-- A list of keys with their values. -/
  | mapping (entries : List (Node × Node))
  /-- A node that is anchored under a number. -/
  | anchored (number : Nat) (node : Node)
  /-- A reference to the node with a number. -/
  | alias (number : Nat)

namespace Node

/-- What stands where a node is left out. -/
def empty : Node := .scalar none true []

/-- What is left to read of a document, and what was introduced before. -/
structure Reading where
  /-- The tokens. -/
  tokens : List Token
  /-- The starts of tags by handle. The first one of a handle counts. -/
  handles : List (Text × Tag)
  /-- The numbers of anchors by name. -/
  anchors : Table Text Nat

namespace Reading

/-- The reading with the first token passed. -/
def next (reading : Reading) : Reading := { reading with tokens := reading.tokens.drop 1 }

/-- Whether the next token is one of the given ones. -/
def isAt (reading : Reading) (tokens : List Token) : Bool :=
  reading.tokens.head?.any tokens.contains

/-- The number of the next anchor. -/
def nextNumber (reading : Reading) : Nat := reading.anchors.size

/-- The reading in which a name is anchored. -/
def anchor (reading : Reading) (name : Text) : Reading :=
  { reading with anchors := reading.anchors.insert name reading.nextNumber }

/-- The tag with a handle. The empty handle is that of tags that are spelled out. -/
def tag? (reading : Reading) (handle : Text) (suffix : Tag) : Option Tag :=
  if handle.isEmpty then some suffix
  else (reading.handles.lookup handle).map (· ++ suffix)

end Reading

/-- The anchor and tag before a node. -/
structure Properties where
  /-- The name of the node, if it has one. -/
  anchor : Option Text
  /-- The handle and suffix of the tag of the node, if it has one. -/
  tag : Option (Text × Tag)

/-- Reads the anchor and the tag before a node, each at most once, in either order. -/
def properties : List Token → Properties × List Token
  | .anchor name :: .tag handle suffix :: rest => (⟨some name, some (handle, suffix)⟩, rest)
  | .tag handle suffix :: .anchor name :: rest => (⟨some name, some (handle, suffix)⟩, rest)
  | .anchor name :: rest => (⟨some name, none⟩, rest)
  | .tag handle suffix :: rest => (⟨none, some (handle, suffix)⟩, rest)
  | rest => (⟨none, none⟩, rest)

/-- What is known of a node before its content. -/
structure Header where
  /-- The number that the node is anchored under, if it is. -/
  number : Option Nat
  /-- The tag of the node, if it has one. -/
  tag : Option Tag

namespace Header

/-- Whether the node has neither an anchor nor a tag. -/
def isPlain (header : Header) : Bool := header.number.isNone && header.tag.isNone

/-- The node with its anchor. -/
def anchor (header : Header) (node : Node) : Node :=
  match header.number with
  | some number => .anchored number node
  | none => node

end Header

/-- A reader of nodes. -/
abbrev Reader (α : Type) := Reading → Option (α × Reading)

/-- Reads a node unless one of the given tokens shows that it is left out. -/
def nodeUnless (ends : List Token) (read : Reader Node) : Reader Node := fun reading =>
  if reading.isAt ends then some (empty, reading) else read reading

/-- Reads what stands before the content of a node. The handle of the tag must be known. -/
def header? : Reader Header := fun reading => do
  let (properties, rest) := properties reading.tokens
  let tag ← match properties.tag with
    | some (handle, suffix) => (reading.tag? handle suffix).map some
    | none => some none
  let reading := { reading with tokens := rest }
  match properties.anchor with
  | some name => return (⟨some reading.nextNumber, tag⟩, reading.anchor name)
  | none => return (⟨none, tag⟩, reading)

/-- The node that has an anchor or a tag but no content. -/
def withoutContent? (header : Header) : Reader Node := fun reading =>
  if header.isPlain then none else some (.scalar header.tag true [], reading)

mutual

/-- Reads a node. A block collection is read only where `block` holds, and a block
sequence that is not indented only where `unindented` holds. -/
def node? (fuel : Nat) (block unindented : Bool) : Reader Node := fun reading =>
  match fuel with
  | 0 => none
  | fuel + 1 =>
    match reading.tokens with
    | .alias name :: _ =>
      (reading.anchors.get? name).map fun number => (.alias number, reading.next)
    | _ => do
      let (header, reading) ← header? reading
      let (node, after) ← content? fuel block unindented header reading
      return (header.anchor node, after)

/-- Reads the content of a node after its anchor and tag. -/
def content? (fuel : Nat) (block unindented : Bool) (header : Header) : Reader Node :=
  fun reading =>
  match fuel with
  | 0 => none
  | fuel + 1 =>
    match reading.tokens with
    | .scalar plain text :: _ =>
      some (.scalar header.tag plain text, reading.next)
    | .openSequence :: _ =>
      (flowItems? fuel true reading.next).map fun (items, after) => (.sequence items, after)
    | .openMapping :: _ =>
      (flowEntries? fuel true reading.next).map fun (entries, after) => (.mapping entries, after)
    | token :: _ =>
      if token = .blockSequence ∧ block then
        (blockItems? fuel reading.next).map fun (items, after) => (.sequence items, after)
      else if token = .blockMapping ∧ block then
        (blockEntries? fuel reading.next).map fun (entries, after) => (.mapping entries, after)
      else if token = .blockEntry ∧ unindented then
        (unindentedItems? fuel reading).map fun (items, after) => (.sequence items, after)
      else withoutContent? header reading
    | [] => withoutContent? header reading

/-- Reads the entries of a block sequence. -/
def blockItems? (fuel : Nat) : Reader (List Node) := fun reading =>
  match fuel with
  | 0 => none
  | fuel + 1 =>
    match reading.tokens with
    | .blockEnd :: _ => some ([], reading.next)
    | .blockEntry :: _ => do
      let (item, reading) ←
        nodeUnless [.blockEntry, .blockEnd] (node? fuel true false) reading.next
      let (items, reading) ← blockItems? fuel reading
      return (item :: items, reading)
    | _ => none

/-- Reads the entries of a sequence that is not indented below its key. -/
def unindentedItems? (fuel : Nat) : Reader (List Node) := fun reading =>
  match fuel with
  | 0 => none
  | fuel + 1 =>
    match reading.tokens with
    | .blockEntry :: _ => do
      let (item, reading) ←
        nodeUnless [.blockEntry, .key, .value, .blockEnd] (node? fuel true false) reading.next
      let (items, reading) ← unindentedItems? fuel reading
      return (item :: items, reading)
    | _ => some ([], reading)

/-- Reads the entries of a block mapping. -/
def blockEntries? (fuel : Nat) : Reader (List (Node × Node)) := fun reading =>
  match fuel with
  | 0 => none
  | fuel + 1 =>
    match reading.tokens with
    | .blockEnd :: _ => some ([], reading.next)
    | .key :: _ => do
      let (key, reading) ←
        nodeUnless [.key, .value, .blockEnd] (node? fuel true true) reading.next
      let (value, reading) ←
        if reading.isAt [.value] then
          nodeUnless [.key, .value, .blockEnd] (node? fuel true true) reading.next
        else some (empty, reading)
      let (entries, reading) ← blockEntries? fuel reading
      return ((key, value) :: entries, reading)
    | _ => none

/-- Reads a key with its value in a flow collection that the token `close` closes. In a
sequence the token that shows that the key is left out is passed over. -/
def flowPair? (fuel : Nat) (close : Token) : Reader (Node × Node) := fun reading =>
  match fuel with
  | 0 => none
  | fuel + 1 => do
    let (key, reading) ←
      if reading.isAt [.value, .flowEntry, close] then
        some (empty, if close = .closeSequence then reading.next else reading)
      else node? fuel false false reading
    let (value, reading) ←
      if reading.isAt [.value] then
        nodeUnless [.flowEntry, close] (node? fuel false false) reading.next
      else some (empty, reading)
    return ((key, value), reading)

/-- Reads the items of a flow sequence. A key with its value is a mapping of its own. -/
def flowItems? (fuel : Nat) (first : Bool) : Reader (List Node) := fun reading =>
  match fuel with
  | 0 => none
  | fuel + 1 =>
    if reading.isAt [.closeSequence] then some ([], reading.next)
    else if !first && !reading.isAt [.flowEntry] then none
    else
      let reading := if first then reading else reading.next
      if reading.isAt [.closeSequence] then some ([], reading.next)
      else do
        let (item, reading) ←
          if reading.isAt [.key] then
            (flowPair? fuel .closeSequence reading.next).map fun (entry, after) =>
              (mapping [entry], after)
          else node? fuel false false reading
        let (items, reading) ← flowItems? fuel false reading
        return (item :: items, reading)

/-- Reads the entries of a flow mapping. A node without a colon is a key without a
value. -/
def flowEntries? (fuel : Nat) (first : Bool) : Reader (List (Node × Node)) := fun reading =>
  match fuel with
  | 0 => none
  | fuel + 1 =>
    if reading.isAt [.closeMapping] then some ([], reading.next)
    else if !first && !reading.isAt [.flowEntry] then none
    else
      let reading := if first then reading else reading.next
      if reading.isAt [.closeMapping] then some ([], reading.next)
      else do
        let (entry, reading) ←
          if reading.isAt [.key] then flowPair? fuel .closeMapping reading.next
          else (node? fuel false false reading).map fun (key, after) => ((key, empty), after)
        let (entries, reading) ← flowEntries? fuel false reading
        return (entry :: entries, reading)

end

/-- Reads the content of a document that its marker opens, which may be left out. -/
def marked? (fuel : Nat) : Reader Node :=
  nodeUnless [.documentStart, .documentEnd] fun reading =>
    match reading.tokens with
    | [] => some (empty, reading)
    | .version .. :: _ => some (empty, reading)
    | .tagHandle .. :: _ => some (empty, reading)
    | _ => node? fuel true false reading

/-- Whether documents of a version can be read. -/
def isKnownVersion (major minor : Nat) : Bool := major == 1 && (minor == 1 || minor == 2)

/-- The handles that the directives before a document introduce, the first one first, with
the tokens after the directives. The version may be stated once, and a handle may be
introduced once. -/
def directives? (versioned : Bool) (handles : List (Text × Tag)) :
    List Token → Option (List (Text × Tag) × List Token)
  | .version major minor :: rest =>
    if versioned || !isKnownVersion major minor then none else directives? true handles rest
  | .tagHandle handle start :: rest =>
    if (handles.lookup handle).isSome then none
    else directives? versioned (handles ++ [(handle, start)]) rest
  | tokens => some (handles, tokens)

/-- Whether the next token is a directive for the document. -/
def isDirected (reading : Reading) : Bool :=
  match reading.tokens with
  | .version .. :: _ => true
  | .tagHandle .. :: _ => true
  | _ => false

/-- Reads a document. Its marker may be left out unless there are directives. -/
def document? (fuel : Nat) : Reader Node := fun reading =>
  if reading.tokens.isEmpty then some (empty, reading)
  else if isDirected reading || reading.isAt [.documentStart] then do
    let (handles, tokens) ← directives? false [] reading.tokens
    let directed := { reading with tokens := tokens, handles := handles ++ reading.handles }
    if directed.isAt [.documentStart] then marked? fuel directed.next else none
  else node? fuel true false reading

/-- The node of a text that holds one document or none. Every step of the reader takes a
token or goes from a node to its content, so three steps per token are enough. -/
def ofText? (text : Text) : Option Node := do
  let tokens ← Token.ofText? text
  let (node, after) ←
    document? (3 * tokens.length + 3) ⟨tokens, Tag.defaultHandles, Table.empty⟩
  if after.tokens.all (· = .documentEnd) then some node else none

mutual

/-- The anchored nodes in and below a node by number, in the order of the document. -/
def anchors : Node → List (Nat × Node)
  | .anchored number node => (number, node) :: anchors node
  | .sequence items => anchorsOfItems items
  | .mapping entries => anchorsOfEntries entries
  | .scalar .. => []
  | .alias _ => []

/-- The anchored nodes in and below a list of nodes. -/
def anchorsOfItems : List Node → List (Nat × Node)
  | [] => []
  | item :: rest => anchors item ++ anchorsOfItems rest

/-- The anchored nodes in and below a list of keys with their values. -/
def anchorsOfEntries : List (Node × Node) → List (Nat × Node)
  | [] => []
  | (key, value) :: rest => anchors key ++ anchors value ++ anchorsOfEntries rest

end

/-- The node that a node of a document stands for, without its anchor. -/
def resolve? (root : Node) : Node → Option Node
  | .alias number => (anchors root).reverse.lookup number
  | .anchored _ node => some node
  | node => some node

/-- The keys of a mapping with their values, in the order of the document. An empty plain
scalar is a mapping without keys. -/
def entries? (root : Node) : Option (List (Node × Node)) := do
  match ← root.resolve? root with
  | .mapping entries =>
    entries.mapM fun (key, value) => return (← root.resolve? key, ← root.resolve? value)
  | .scalar _ true [] => some []
  | _ => none

/-- The text of a scalar, however it is written. -/
def text? : Node → Option Text
  | .scalar _ _ text => some text
  | _ => none

/-- Whether a plain scalar of this text stands for nothing. -/
def isNullWord (text : Text) : Bool :=
  text = "null".toList || text = "Null".toList || text = "NULL".toList || text = ['~']

/-- The text of a scalar that may also stand for nothing. A tag makes it stand for
something, unless it is the tag of nothing. -/
def optionalText? : Node → Option (Option Text)
  | .scalar tag plain text =>
    if !plain then some (some text)
    else match tag with
      | none => some (if text.isEmpty || isNullWord text then none else some text)
      | some tag =>
        if tag ≠ Tag.null then some (some text)
        else if isNullWord text then some none
        else none
  | _ => none

/-- A choice among words: a scalar that is the word, or the word as a local tag on a node
that stands for nothing. -/
def word? : Node → Option Text
  | .scalar tag plain text =>
    match tag.bind Tag.localWord? with
    | some word => if plain && (text.isEmpty || isNullWord text) then some word else none
    | none => some text
  | _ => none

end Node
end MaterialNode.Yaml
