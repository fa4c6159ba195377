import Legible.Number.Shortest

/-!
# How a double is written

Two formats share the choice of digits and differ in layout: the plain one is positional
throughout, the data one marks every number as a fraction and turns to exponents far from one.
-/

namespace Legible.Number

structure Format where
  tie : Tie
  /-- Decimal exponents of the leading digit that are written positionally, ends included. -/
  positional : Option (Int × Int)
  /-- A whole number is followed by `.0`. -/
  pointZero : Bool

/-- Positional always; a whole number has no point. -/
def plain : Format := ⟨.away, none, false⟩

/-- Positional from `10 ^ -5` to below `10 ^ 16`, else with a signed exponent. -/
def data : Format := ⟨.even, some (-5, 15), true⟩

def zeros (n : Nat) : List Char := List.replicate n '0'

def layPositional (pointZero : Bool) (d : Digits) : List Char :=
  let size := d.digits.length
  if d.point ≤ 0 then '0' :: '.' :: (zeros (-d.point).toNat ++ d.digits)
  else if (size : Int) ≤ d.point then
    d.digits ++ zeros (d.point.toNat - size) ++ (if pointZero then ['.', '0'] else [])
  else d.digits.take d.point.toNat ++ '.' :: d.digits.drop d.point.toNat

def layExponent (d : Digits) : List Char :=
  let e := d.point - 1
  let tail := (if e < 0 then '-' else '+') :: Nat.toDigits 10 e.natAbs
  match d.digits with
  | [] => []
  | [first] => first :: 'e' :: tail
  | first :: more => first :: '.' :: (more ++ 'e' :: tail)

def Format.lay (format : Format) (d : Digits) : List Char :=
  match format.positional with
  | none => layPositional format.pointZero d
  | some (low, high) =>
    if low ≤ d.point - 1 ∧ d.point - 1 ≤ high then layPositional format.pointZero d
    else layExponent d

def Format.write (format : Format) (x : Float) : String :=
  let bits := x.toBits
  let magnitude := bits.toNat % 0x8000000000000000
  let body :=
    if magnitude = 0 then '0' :: (if format.pointZero then ['.', '0'] else [])
    else format.lay ((Binary.ofBits bits).shortest format.tie)
  String.ofList (if bits.toNat < 0x8000000000000000 then body else '-' :: body)

/-- The sign bit, which zero and NaN carry as well. -/
def hasSign (x : Float) : Bool := decide (0x8000000000000000 ≤ x.toBits.toNat)

def display (x : Float) : String :=
  if x.isNaN then "NaN"
  else if x.isInf then (if hasSign x then "-inf" else "inf")
  else plain.write x

end Legible.Number
