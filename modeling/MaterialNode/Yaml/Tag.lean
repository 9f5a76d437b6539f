import MaterialNode.Yaml.Character

/-!
# Tags of YAML

A tag names the kind of a node. It is spelled with ASCII characters and escapes, each a
percent sign with two hexadecimal digits, so a tag is a list of octets. Escaped octets
belong together as the octets of a character do in UTF-8; what they spell need not be a
character. A document may introduce handles that stand for the start of its tags.
-/

namespace MaterialNode.Yaml

/-- A tag is the list of its octets. -/
abbrev Tag := List UInt8

namespace Tag

/-- The octets of a text of ASCII characters. -/
def ofAscii (text : Text) : Tag := text.map fun c => UInt8.ofNat c.toNat

/-- The text that octets spell in UTF-8, if they spell one. -/
def text? (octets : List UInt8) : Option Text :=
  (String.fromUTF8? ⟨octets.toArray⟩).map String.toList

/-- The start of the tags that YAML itself defines. -/
def standard : Tag := ofAscii "tag:yaml.org,2002:"

/-- The tag of nodes that stand for nothing. -/
def null : Tag := standard ++ ofAscii "null"

/-- The octet that local tags start with. -/
def localMark : UInt8 := UInt8.ofNat '!'.toNat

/-- The word of a local tag, one that is spelled with an exclamation mark and the word. -/
def localWord? (tag : Tag) : Option Text :=
  match tag with
  | [] => none
  | mark :: word => if mark = localMark then text? word else none

/-- The starts of tags that handles stand for unless a document says otherwise. -/
def defaultHandles : List (Text × Tag) :=
  [("!".toList, [localMark]), ("!!".toList, standard)]

/-- The number of octets that belong with a leading octet of UTF-8 and follow it. -/
def following? (octet : Nat) : Option Nat :=
  if octet < 0x80 then some 0
  else if octet < 0xC0 then none
  else if octet < 0xE0 then some 1
  else if octet < 0xF0 then some 2
  else if octet < 0xF8 then some 3
  else none

/-- The number of octets that have to follow after one more octet, given the number
before it. -/
def pending? (pending octet : Nat) : Option Nat :=
  if pending = 0 then following? octet
  else if 0x80 ≤ octet ∧ octet < 0xC0 then some (pending - 1)
  else none

/-- Reads the octets at the start of a text, given the characters that stand for
themselves and the number of octets that have to follow. It returns the octets with the
text after them, and fails at a broken escape. -/
def read? (stands : Char → Bool) (pending : Nat) : Text → Option (List UInt8 × Text)
  | [] => if pending = 0 then some ([], []) else none
  | '%' :: high :: low :: rest => do
    let octet := 16 * (← Text.hexDigit? high) + (← Text.hexDigit? low)
    let (octets, after) ← read? stands (← pending? pending octet) rest
    return (UInt8.ofNat octet :: octets, after)
  | c :: rest =>
    if c = '%' ∨ pending ≠ 0 then none
    else if stands c then
      (read? stands 0 rest).map fun (octets, after) => (UInt8.ofNat c.toNat :: octets, after)
    else some ([], c :: rest)

/-- The octets before the first zero, which ends a tag. -/
def upToZero (octets : List UInt8) : Tag := octets.takeWhile (· ≠ 0)

end Tag
end MaterialNode.Yaml
