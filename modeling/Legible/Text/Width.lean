import Legible.Text.Class
import Legible.Text.Table.Wide
import Legible.Text.Table.ZeroWidth

/-!
# Display width

The number of columns a character takes in a fixed-pitch font, code point by code point: joining
sequences are not recognised, and ambiguous characters count as narrow. Two Khmer characters that
stand for several written ones take the columns of those.
-/

namespace Legible.Text

def charWidth (c : Char) : Nat :=
  let n := c.toNat
  if 0x20 ≤ n ∧ n < 0x7F then 1
  else if inRanges Table.zeroWidth n then 0
  else if inRanges Table.wide n then 2
  else if n = 0x17A4 then 2
  else if n = 0x17D8 then 3
  else 1

end Legible.Text
