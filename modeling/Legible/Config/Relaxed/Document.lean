import Legible.Json.Token
import Legible.Number.Reading

/-!
# Relaxed JSON documents

Numbers and texts are kept as they are written and read when somebody asks for them: a number that
is too large, or a text with half of a surrogate pair, does no harm where nobody looks at it.
-/

namespace Legible.Relaxed

/-- A character of a text or a name, or the four digits of an escape. -/
inductive Glyph where
  | char (c : Char)
  | code (n : Nat)

/-- The character of a surrogate pair. The halves are overlaid bit by bit, so that the plane keeps
what the upper half says of it and sixteen is not added to that. -/
def joined (high low : Nat) : Char :=
  Char.ofNat ((high - 0xD800) * 0x400 ||| (low - 0xDC00 + 0x10000))

/-- The characters written; none if half of a pair stands alone. -/
def characters? : List Glyph → Option (List Char)
  | [] => some []
  | .char c :: rest => (characters? rest).map (c :: ·)
  | .code n :: .code m :: rest =>
    if 0xD800 ≤ n ∧ n < 0xDC00 then
      if 0xDC00 ≤ m ∧ m < 0xE000 then (characters? rest).map (joined n m :: ·) else none
    else if 0xDC00 ≤ n ∧ n < 0xE000 then none
    else (characters? (.code m :: rest)).map (Char.ofNat n :: ·)
  | .code n :: rest =>
    if 0xD800 ≤ n ∧ n < 0xE000 then none else (characters? rest).map (Char.ofNat n :: ·)

def text? (glyphs : List Glyph) : Option String := (characters? glyphs).map String.ofList

/-- A key or a text without a reading is `none`. -/
inductive Document where
  | null
  | bool (b : Bool)
  | number (word : List Char)
  | text (s : Option String)
  | array (items : List Document)
  | object (fields : List (Option String × Document))

/-- Containers nest freely, and a comma may stand before a closing bracket. -/
def shape : Json.Shape (Option String) Document := ⟨.array, .object, none, true⟩

def signed : List Char → Option Char × List Char
  | '-' :: body => (some '-', body)
  | '+' :: body => (some '+', body)
  | body => (none, body)

def hexDigits? : List Char → Option (List Nat)
  | '0' :: x :: ds => if (x = 'x' ∨ x = 'X') ∧ ds ≠ [] then ds.mapM Json.hexValue? else none
  | _ => none

/-- A decimal, of which the part on one side of the point may be left out. -/
def decimal? (negative : Bool) (body : List Char) : Option Number.DecimalWord := do
  let w ← Number.splitUnsigned? negative body
  if Number.isWhole w.whole || (w.whole.isEmpty && !w.fraction.isEmpty) then return w else none

/-- The form of a number: a decimal, digits of base sixteen, or one of two words. -/
def isNumber (word : List Char) : Bool :=
  let body := (signed word).2
  body == "Infinity".toList || body == "NaN".toList || (hexDigits? body).isSome ||
    (decimal? false body).isSome

/-- The nearest double. Of the numbers of base sixteen only those without a sign and below
`2 ^ 32` have one, a decimal must not be out of range, and the two words take no plus. -/
def double? (word : List Char) : Option Float :=
  let (sign, body) := signed word
  if body = "Infinity".toList ∧ sign ≠ some '+' then
    some (Number.signed (sign == some '-') (1.0 / 0.0))
  else if body = "NaN".toList ∧ sign ≠ some '+' then some (0.0 / 0.0)
  else
    match hexDigits? body with
    | some ds =>
      let n := ds.foldl (fun n d => 16 * n + d) 0
      if sign = none ∧ n < 0x100000000 then some (Float.ofNat n) else none
    | none => do
      let w ← decimal? (sign == some '-') body
      if w.nearest.isInf then none else return w.nearest

/-- The double cut to a whole number, or else the nearest bound of 64 bits without a sign. -/
def size? (word : List Char) : Option Nat := (double? word).map fun x => x.toUInt64.toNat

end Legible.Relaxed
