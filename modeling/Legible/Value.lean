import Legible.Decimal.Text
import Legible.Number.Format

/-!
# Values at run time

The fields of a record are kept in the order of their names, each name once.
-/

namespace Legible

inductive Value where
  | null
  | bool (b : Bool)
  | int (n : Int64)
  | decimal (d : Decimal)
  | double (x : Float)
  | char (c : Char)
  | string (s : String)
  | record (fields : List (String × Value))
deriving Inhabited

namespace Value

def typeName : Value → String
  | .null => "null"
  | .bool _ => "bool"
  | .int _ => "int"
  | .decimal _ => "decimal"
  | .double _ => "double"
  | .char _ => "char"
  | .string _ => "string"
  | .record _ => "object"

def isNull : Value → Bool
  | .null => true
  | _ => false

def isString : Value → Bool
  | .string _ => true
  | _ => false

/-- Puts a field in its place, or in the place of the field of that name. -/
def insertField (name : String) (value : Value) : List (String × Value) → List (String × Value)
  | [] => [(name, value)]
  | (n, v) :: rest =>
    if name = n then (name, value) :: rest
    else if name < n then (name, value) :: (n, v) :: rest
    else (n, v) :: insertField name value rest

/-- A record of these fields; of two with one name the later holds. -/
def ofFields (fields : List (String × Value)) : Value :=
  .record (fields.foldl (fun sorted (name, value) => insertField name value sorted) [])

mutual

def display : Value → String
  | .null => "null"
  | .bool b => if b then "true" else "false"
  | .int n => toString n.toInt
  | .decimal d => d.text
  | .double x => Number.display x
  | .char c => c.toString
  | .string s => s
  | .record fields => "\x7b " ++ ", ".intercalate (displayFields fields) ++ " \x7d"
termination_by structural v => v

def displayFields : List (String × Value) → List String
  | [] => []
  | (name, value) :: rest => (name ++ " = " ++ display value) :: displayFields rest
termination_by structural fields => fields

end

/-- A value as part of a text, where null adds nothing. -/
def asText : Value → String
  | .null => ""
  | v => v.display

mutual

/-- Equality of values: decimals by number, doubles as numbers. -/
def beq : Value → Value → Bool
  | .null, .null => true
  | .bool a, .bool b => a == b
  | .int a, .int b => a == b
  | .decimal a, .decimal b => a == b
  | .double a, .double b => a == b
  | .char a, .char b => a == b
  | .string a, .string b => a == b
  | .record as, .record bs => beqFields as bs
  | _, _ => false
termination_by structural a => a

def beqFields : List (String × Value) → List (String × Value) → Bool
  | [], [] => true
  | (n, a) :: as, (m, b) :: bs => n == m && beq a b && beqFields as bs
  | _, _ => false
termination_by structural as => as

end

instance : BEq Value := ⟨beq⟩

end Value

end Legible
