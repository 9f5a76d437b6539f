import MaterialNode.Text

/-!
# Blank Characters and Trimming

Trimming removes the characters with the Unicode property `White_Space`. The table lists
them; the facts below say what trimming leaves.
-/

namespace MaterialNode.Text

/-- The first and last code points of the runs of characters with the property
`White_Space`. -/
def blankRanges : List (Nat × Nat) :=
  [(0x09, 0x0D), (0x20, 0x20), (0x85, 0x85), (0xA0, 0xA0), (0x1680, 0x1680),
    (0x2000, 0x200A), (0x2028, 0x2029), (0x202F, 0x202F), (0x205F, 0x205F),
    (0x3000, 0x3000)]

/-- Whether a code point lies in one of the given ranges, ends included. -/
def inRanges (ranges : List (Nat × Nat)) (code : Nat) : Bool :=
  ranges.any fun range => decide (range.1 ≤ code) && decide (code ≤ range.2)

/-- Whether a character has the property `White_Space`. -/
def isBlank (c : Char) : Bool := inRanges blankRanges c.toNat

/-- `text` without the blanks at its start. -/
def trimStart (text : Text) : Text := text.dropWhile isBlank

/-- `text` without the blanks at its end. -/
def trimEnd (text : Text) : Text := (text.reverse.dropWhile isBlank).reverse

/-- `text` without the blanks at both ends. -/
def trim (text : Text) : Text := trimEnd (trimStart text)

/-- A text without blanks at its start is left alone there. -/
theorem trimStart_cons_of_not_blank {c : Char} (rest : Text) (h : isBlank c = false) :
    trimStart (c :: rest) = c :: rest := by
  simp [trimStart, h]

/-- A text that ends in a character that is no blank is left alone there. -/
theorem trimEnd_append_of_not_blank {c : Char} (start : Text) (h : isBlank c = false) :
    trimEnd (start ++ [c]) = start ++ [c] := by
  simp [trimEnd, h]

/-- Trimming at the end takes a part off the end only. -/
theorem trimEnd_isPrefix (text : Text) : trimEnd text <+: text := by
  have h := List.dropWhile_suffix (l := text.reverse) isBlank
  rw [← List.reverse_prefix] at h
  simpa [trimEnd] using h

/-- What trimming leaves is a contiguous part of the text. -/
theorem trim_isInfix (text : Text) : trim text <:+: text :=
  (trimEnd_isPrefix _).isInfix.trans (List.dropWhile_suffix isBlank).isInfix

end MaterialNode.Text
