import MaterialNode.Text.Blank
import MaterialNode.Text.Unprintable

/-!
# Quoted Text

Messages show paths and shader lines between double quotes, with the characters escaped
that would be ambiguous or invisible.
-/

namespace MaterialNode.Text

/-- Whether a character is shown by its number inside quotes. -/
def isUnprintable (c : Char) : Bool := inRanges unprintableRanges c.toNat

/-- The spelling of a character inside quotes. -/
def quoteChar (c : Char) : Text :=
  if c = '\t' then "\\t"
  else if c = '\n' then "\\n"
  else if c = '\r' then "\\r"
  else if c = '\x00' then "\\0"
  else if c = '"' then "\\\""
  else if c = '\\' then "\\\\"
  else if isUnprintable c then "\\u\x7b" ++ Nat.toDigits 16 c.toNat ++ "\x7d"
  else [c]

/-- `text` between double quotes. -/
def quoted (text : Text) : Text := '"' :: (text.flatMap quoteChar ++ ['"'])

end MaterialNode.Text
