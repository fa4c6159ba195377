import Legible.Text.Class

/-!
# Reading doubles

A decimal text is split into its sign, digits and exponent once. The exact reading rounds to the
nearest double; the scaled reading, used for data files, keeps the digits that fit 64 bits and
multiplies or divides by a single power of ten, so it may miss the nearest double by a little.
-/

namespace Legible.Number

/-- `-?` whole `.` fraction `e` exponent, as written. -/
structure DecimalWord where
  negative : Bool
  whole : List Char
  /-- There is a point, be it in front of digits or not. -/
  point : Bool
  fraction : List Char
  exponent : Option Int

def digitValue (c : Char) : Nat := c.toNat - '0'.toNat

def natOfDigits (ds : List Char) : Nat := ds.foldl (fun n c => 10 * n + digitValue c) 0

/-- Digits without a superfluous leading zero. -/
def isWhole (ds : List Char) : Bool :=
  match ds with
  | [] => false
  | ['0'] => true
  | d :: _ => d != '0'

/-- Signs and digits of an exponent; at least one digit. -/
def readExponent? : List Char → Option Int
  | '-' :: ds => if ds ≠ [] ∧ ds.all Text.isAsciiDigit then some (-(natOfDigits ds : Int)) else none
  | '+' :: ds => if ds ≠ [] ∧ ds.all Text.isAsciiDigit then some (natOfDigits ds) else none
  | ds => if ds ≠ [] ∧ ds.all Text.isAsciiDigit then some (natOfDigits ds) else none

/-- Splits an unsigned number into its parts; which of them may be empty is left to the caller. -/
def splitUnsigned? (negative : Bool) (cs : List Char) : Option DecimalWord :=
  let whole := cs.takeWhile Text.isAsciiDigit
  let (point, fraction, rest) :=
    match cs.dropWhile Text.isAsciiDigit with
    | '.' :: r => (true, r.takeWhile Text.isAsciiDigit, r.dropWhile Text.isAsciiDigit)
    | r => (false, [], r)
  match rest with
  | [] => some ⟨negative, whole, point, fraction, none⟩
  | c :: r =>
    if c = 'e' ∨ c = 'E' then
      (readExponent? r).map fun e => ⟨negative, whole, point, fraction, some e⟩
    else none

def powerOfTen (e : Nat) : Float := Float.ofScientific 1 false e

def signed (negative : Bool) (x : Float) : Float := if negative then -x else x

def DecimalWord.nearest (w : DecimalWord) : Float :=
  let digits := natOfDigits (w.whole ++ w.fraction)
  let e := w.exponent.getD 0 - (w.fraction.length : Int)
  let size := (Nat.toDigits 10 digits).length
  signed w.negative <|
    if digits = 0 ∨ e + (size : Int) < -400 then 0.0
    else if 400 < e + (size : Int) then 1.0 / 0.0
    else if e < 0 then Float.ofScientific digits true e.natAbs
    else Float.ofScientific digits false e.toNat

/-- The largest front of the digits whose value stays below `2 ^ 64`, and how many follow it. -/
def fittingFront (value : Nat) : List Char → Nat × Nat
  | [] => (value, 0)
  | d :: ds =>
    let next := 10 * value + digitValue d
    if next < 0x10000000000000000 then fittingFront next ds else (value, ds.length + 1)

/-- `significand * 10 ^ e` by one multiplication or a few divisions; `none` when out of range. -/
def scale? (significand : Float) (e : Int) : Option Float :=
  if 0 ≤ e then
    if e ≤ 308 then
      let x := significand * powerOfTen e.toNat
      if x.isInf then none else some x
    else if significand == 0.0 then some significand
    else none
  else
    let n := e.natAbs
    if n ≤ 308 then some (significand / powerOfTen n)
    else if n ≤ 616 then some (significand / powerOfTen 308 / powerOfTen (n - 308))
    else some 0.0

def DecimalWord.scaled? (w : DecimalWord) : Option Float :=
  let (whole, dropped) := fittingFront 0 w.whole
  let (significand, ignored) := fittingFront whole w.fraction
  let e := w.exponent.getD 0 + (dropped : Int) - ((w.fraction.length - ignored : Nat) : Int)
  (scale? (Float.ofNat significand) e).map (signed w.negative)

end Legible.Number
