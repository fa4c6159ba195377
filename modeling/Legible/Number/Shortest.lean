/-!
# The fewest decimal digits that identify a double

A positive double is `mantissa * 2 ^ exponent`. The decimals that read back as it form an interval
around it, closed when the mantissa is even. The search tries one digit, two digits, and so on up
to seventeen, and takes the nearer neighbour of the value on the first grid that meets the
interval.
-/

namespace Legible.Number

/-- A positive finite double. -/
structure Binary where
  mantissa : Nat
  exponent : Int
  /-- The gap to the double below is half the gap to the double above. -/
  narrow : Bool

def Binary.ofBits (bits : UInt64) : Binary :=
  let field := (bits.toNat / 0x10000000000000) % 0x800
  let fraction := bits.toNat % 0x10000000000000
  if field = 0 then ⟨fraction, -1074, false⟩
  else ⟨fraction + 0x10000000000000, (field : Int) - 1075, fraction == 0 && decide (1 < field)⟩

/-- Which of two equally near candidates is taken. -/
inductive Tie where
  | even
  | away

/-- The decimal `0.d₁d₂… * 10 ^ point`; the first and the last digit are not zero. -/
structure Digits where
  digits : List Char
  point : Int

/-- Compares `a * 10 ^ i` with `n * 2 ^ j`. -/
def compareScaled (a : Nat) (i : Int) (n : Nat) (j : Int) : Ordering :=
  compare (a * Nat.pow 10 i.toNat * Nat.pow 2 (-j).toNat)
    (n * Nat.pow 2 j.toNat * Nat.pow 10 (-i).toNat)

/-- Whether `d * 10 ^ e` reads back as `x`. -/
def Binary.readsBack (x : Binary) (d : Nat) (e : Int) : Bool :=
  let below := if x.narrow then 4 * x.mantissa - 1 else 4 * x.mantissa - 2
  let closed := x.mantissa % 2 == 0
  let low := compareScaled d e below (x.exponent - 2)
  let high := compareScaled d e (4 * x.mantissa + 2) (x.exponent - 2)
  (low == .gt || (closed && low == .eq)) && (high == .lt || (closed && high == .eq))

def digitCount (n : Nat) : Nat := (Nat.toDigits 10 n).length

/-- The least `k` with `x < 10 ^ k`. -/
def Binary.magnitude (x : Binary) : Int :=
  let num := x.mantissa * Nat.pow 2 x.exponent.toNat
  let den := Nat.pow 2 (-x.exponent).toNat
  if den ≤ num then (digitCount (num / den) : Int)
  else
    let k := digitCount (den / num)
    if num * Nat.pow 10 (k - 1) = den then 2 - (k : Int) else 1 - (k : Int)

/-- The neighbour of `x` on the grid `10 ^ e` that reads back as `x`, the nearer one if both do. -/
def Binary.onGrid? (x : Binary) (tie : Tie) (e : Int) : Option Nat :=
  let num := x.mantissa * Nat.pow 2 x.exponent.toNat * Nat.pow 10 (-e).toNat
  let den := Nat.pow 2 (-x.exponent).toNat * Nat.pow 10 e.toNat
  let d := num / den
  match x.readsBack d e && decide (0 < d), x.readsBack (d + 1) e with
  | false, false => none
  | true, false => some d
  | false, true => some (d + 1)
  | true, true =>
    match compare (2 * num) ((2 * d + 1) * den) with
    | .lt => some d
    | .gt => some (d + 1)
    | .eq =>
      match tie with
      | .away => some (d + 1)
      | .even => some (if d % 2 == 0 then d else d + 1)

/-- Every digit of `x`; no finite double needs it, since seventeen digits suffice. -/
def Binary.exact (x : Binary) : Nat × Int :=
  (x.mantissa * Nat.pow 2 x.exponent.toNat * Nat.pow 5 (-x.exponent).toNat,
    if x.exponent < 0 then x.exponent else 0)

def Digits.ofScaled (d : Nat) (e : Int) : Digits :=
  let all := Nat.toDigits 10 d
  ⟨(all.reverse.dropWhile (· == '0')).reverse, (all.length : Int) + e⟩

def Binary.shortest (x : Binary) (tie : Tie) : Digits :=
  let k := x.magnitude
  let found := (List.range 17).findSome? fun (n : Nat) =>
    let e := k - (n : Int) - 1
    (x.onGrid? tie e).map fun d => (d, e)
  let (d, e) := found.getD x.exact
  Digits.ofScaled d e

end Legible.Number
