/-!
# Exact decimals

A decimal is a mantissa of 128 bits over a power of ten with at most 28 fractional digits.
Arithmetic keeps trailing zeros and never rounds: a result that does not fit is refused. Order and
equality go by the number and not by the digits.
-/

namespace Legible

namespace Decimal

def minMantissa : Int := -170141183460469231731687303715884105728

def maxMantissa : Int := 170141183460469231731687303715884105727

def maxScale : Nat := 28

end Decimal

structure Decimal where
  mantissa : Int
  scale : Nat
  mantissa_ge : Decimal.minMantissa ≤ mantissa
  mantissa_le : mantissa ≤ Decimal.maxMantissa
  scale_le : scale ≤ Decimal.maxScale

namespace Decimal

inductive Overflow where
  | scale
  | rescale
  | addition
  | subtraction
  | multiplication
deriving DecidableEq

def fits (m : Int) : Bool := decide (minMantissa ≤ m) && decide (m ≤ maxMantissa)

/-- `m / 10 ^ s`, refused as `cause` if the mantissa is too large, else for too many digits. -/
def make (cause : Overflow) (m : Int) (s : Nat) : Except Overflow Decimal :=
  if hm : fits m = true then
    if hs : s ≤ maxScale then
      .ok ⟨m, s, by simp [fits] at hm; exact hm.1, by simp [fits] at hm; exact hm.2, hs⟩
    else .error .scale
  else .error cause

def zero : Decimal := ⟨0, 0, by decide, by decide, by decide⟩

def ofInt64 (n : Int64) : Decimal :=
  ⟨n.toInt, 0,
    Int.le_trans (by decide) (Int64.le_toInt n),
    Int.le_trans (Int.le_of_lt (Int64.toInt_lt n)) (by decide),
    by decide⟩

def powerOfTen (n : Nat) : Int := Int.ofNat (Nat.pow 10 n)

/-- The mantissa of the same number with `s` fractional digits, which must be no fewer. -/
def widen (d : Decimal) (s : Nat) : Except Overflow Int :=
  let m := d.mantissa * powerOfTen (s - d.scale)
  if fits m then .ok m else .error .rescale

def align (a b : Decimal) : Except Overflow (Int × Int × Nat) := do
  let s := Nat.max a.scale b.scale
  let x ← a.widen s
  let y ← b.widen s
  return (x, y, s)

def add (a b : Decimal) : Except Overflow Decimal := do
  let (x, y, s) ← align a b
  make .addition (x + y) s

def sub (a b : Decimal) : Except Overflow Decimal := do
  let (x, y, s) ← align a b
  make .subtraction (x - y) s

def mul (a b : Decimal) : Except Overflow Decimal :=
  make .multiplication (a.mantissa * b.mantissa) (a.scale + b.scale)

/-- The whole part, and the rest counted in the smallest unit there is. -/
def split (d : Decimal) : Int × Int :=
  (d.mantissa.tdiv (powerOfTen d.scale),
    d.mantissa.tmod (powerOfTen d.scale) * powerOfTen (maxScale - d.scale))

/-- The order of the numbers: whole parts first, then the rests. -/
def cmp (a b : Decimal) : Ordering :=
  (compare a.split.1 b.split.1).then (compare a.split.2 b.split.2)

instance : BEq Decimal := ⟨fun a b => a.cmp b == .eq⟩

/-- `b ^ n` for doubles by squaring, where `n` has fewer than `bits` binary digits. -/
def floatPower (bits : Nat) (result b : Float) (n : Nat) : Float :=
  match bits with
  | 0 => result
  | bits + 1 =>
    let result := if n % 2 = 1 then result * b else result
    if n / 2 = 0 then result else floatPower bits result (b * b) (n / 2)

def toFloat (d : Decimal) : Float := Float.ofInt d.mantissa / floatPower 32 1.0 10.0 d.scale

end Decimal

end Legible
