import Legible.Decimal.Basic
import Legible.Number.Reading
import Legible.Text.Class

/-!
# Decimals as text

A decimal is written with exactly its fractional digits and at least one digit before the point.
Reading goes digit by digit, and refuses a number whose digits leave 128 bits on the way, or one
with more digits behind the point than 32 bits count.
-/

namespace Legible.Decimal

def text (d : Decimal) : String :=
  let digits := Nat.toDigits 10 d.mantissa.natAbs
  let padded := List.replicate (d.scale + 1 - digits.length) '0' ++ digits
  let whole := padded.take (padded.length - d.scale)
  let fraction := padded.drop (padded.length - d.scale)
  let body := if fraction.isEmpty then whole else whole ++ '.' :: fraction
  String.ofList (if d.mantissa < 0 then '-' :: body else body)

inductive ReadFault where
  | malformed
  | overflow (cause : Overflow)
deriving DecidableEq

/-- The digits as a number, as long as it stays within a positive mantissa. -/
def accumulate (m : Int) : List Char → Option Int
  | [] => some m
  | c :: cs =>
    let next := m * 10 + Int.ofNat (Number.digitValue c)
    if fits next then accumulate next cs else none

def maxFraction : Nat := 0xFFFFFFFF

def parseUnsigned (negative : Bool) (body : List Char) : Except ReadFault Decimal :=
  let whole := body.takeWhile (· != '.')
  let tail := body.dropWhile (· != '.')
  let fraction := tail.drop 1
  if whole.isEmpty || (!tail.isEmpty && fraction.isEmpty) ||
      !(whole ++ fraction).all Text.isAsciiDigit then
    .error .malformed
  else
    match accumulate 0 (whole ++ fraction) with
    | none => .error .malformed
    | some m =>
      if fraction.length ≤ maxFraction then
        (make .scale (if negative then -m else m) fraction.length).mapError .overflow
      else .error .malformed

def parse (s : String) : Except ReadFault Decimal :=
  let (negative, body) := Text.unsign s.toList
  parseUnsigned negative body

end Legible.Decimal
