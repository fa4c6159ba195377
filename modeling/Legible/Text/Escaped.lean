import Legible.Text.Class
import Legible.Text.Table.Mark
import Legible.Text.Table.Unprintable

/-!
# Text as diagnostics show it

In double quotes, with the usual short escapes, and with every character that would show no glyph
of its own written as its code point.
-/

namespace Legible.Text

/-- The digits of `n` in base sixteen, lower case, without leading zeros. -/
def hexText (n : Nat) : String := String.ofList (Nat.toDigits 16 n)

def showsGlyph (c : Char) : Bool :=
  if c.toNat < 0x80 then decide (0x20 ≤ c.toNat) && decide (c.toNat ≠ 0x7F)
  else !inRanges Table.mark c.toNat && !inRanges Table.unprintable c.toNat

def escapedChar (c : Char) : String :=
  if c = '"' then "\\\""
  else if c = '\\' then "\\\\"
  else if c = '\n' then "\\n"
  else if c = '\r' then "\\r"
  else if c = '\t' then "\\t"
  else if c = Char.ofNat 0 then "\\0"
  else if showsGlyph c then c.toString
  else "\\u\x7b" ++ hexText c.toNat ++ "\x7d"

def escaped (s : String) : String :=
  "\"" ++ String.join (s.toList.map escapedChar) ++ "\""

end Legible.Text
