import MaterialNode.Text.Blank
import MaterialNode.Text.Numeral

/-!
# Characters of YAML

The classes of characters that YAML's rules speak of. A line ends in a line feed, a
carriage return or one of three further breaks; words on a line are separated by spaces
and tabs.
-/

namespace MaterialNode.Yaml

/-- Whether a character separates words on a line. -/
def isSpacing (c : Char) : Bool := c = ' ' || c = '\t'

/-- Whether a character ends a line. -/
def isBreak (c : Char) : Bool :=
  c = '\n' || c = '\r' || c = '\u0085' || c = '\u2028' || c = '\u2029'

/-- The break that stands in a scalar's text for a break of the document. -/
def breakInText (c : Char) : Char := if c = '\u2028' ∨ c = '\u2029' then c else '\n'

/-- Whether a character may stand in the names of anchors, tags and directives. -/
def isNameChar (c : Char) : Bool :=
  Text.isDigit c || Text.inRanges [('a'.toNat, 'z'.toNat), ('A'.toNat, 'Z'.toNat)] c.toNat
    || c = '-' || c = '_'

/-- Whether a character stands for itself in a tag. -/
def isTagChar (c : Char) : Bool := isNameChar c || ";/?:@&=+$.!~*'()".toList.contains c

/-- Whether a character stands for itself in a tag between angle brackets. -/
def isBracketedTagChar (c : Char) : Bool := isTagChar c || ",[]".toList.contains c

/-- Whether a character is shown as it is by the printer. -/
def isPrintable (c : Char) : Bool :=
  c = '\n' || (c != '\uFEFF' && Text.inRanges
    [(0x20, 0x7E), (0xA0, 0xD7FF), (0xE000, 0xFFFD), (0x10000, 0x10FFFF)] c.toNat)

/-- Whether a document may hold a character: the printable ones, and a few invisible
ones. -/
def isAdmitted (c : Char) : Bool :=
  isPrintable c || c = '\t' || c = '\r' || c = '\u0085' || c = '\uFEFF'

/-- Whether a text is at its end, at a space or at a break. -/
def wordEnds : Text → Bool
  | [] => true
  | c :: _ => isSpacing c || isBreak c

end MaterialNode.Yaml
