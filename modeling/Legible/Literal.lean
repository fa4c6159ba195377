import Legible.Error
import Legible.Number.Format
import Legible.Text.Class

/-!
# Constants

The value of a constant node. A decimal is kept as the text it was written in, so that every digit
of it is rendered, trailing zeros included.
-/

namespace Legible

def isDigits (cs : List Char) : Bool := !cs.isEmpty && cs.all Text.isAsciiDigit

/-- Digits, and perhaps a point with digits behind it. -/
def isDecimalBody (body : List Char) : Bool :=
  match body.dropWhile (· != '.') with
  | [] => isDigits body
  | _ :: fraction => isDigits (body.takeWhile (· != '.')) && isDigits fraction

def isDecimalText (cs : List Char) : Bool := isDecimalBody (Text.unsign cs).2

structure DecimalText where
  text : String
  wellFormed : isDecimalText text.toList = true
deriving DecidableEq

namespace DecimalText

def parse (s : String) : Except Error DecimalText :=
  if h : isDecimalText s.toList = true then .ok ⟨s, h⟩ else .error (.invalidLiteral "decimal" s)

def isNegative (d : DecimalText) : Bool := d.text.toList.head? == some '-'

end DecimalText

inductive Literal where
  | null
  | bool (b : Bool)
  | integer (n : Int64)
  | decimal (d : DecimalText)
  | double (x : Float)
  | char (c : Char)
  | string (s : String)

namespace Literal

/-- Whether the literal is rendered with a minus sign in front. -/
def isNegative : Literal → Bool
  | .integer n => decide (n.toInt < 0)
  | .decimal d => d.isNegative
  | .double x => x.isFinite && Number.hasSign x
  | _ => false

/-- Equality of values: NaN differs from itself, and the two zeros are equal. -/
def beq : Literal → Literal → Bool
  | .null, .null => true
  | .bool a, .bool b => a == b
  | .integer a, .integer b => a == b
  | .decimal a, .decimal b => a == b
  | .double a, .double b => a == b
  | .char a, .char b => a == b
  | .string a, .string b => a == b
  | _, _ => false

instance : BEq Literal := ⟨beq⟩

end Literal

end Legible
