import Legible.Eval
import Legible.Expr.Builder
import Legible.Json.Decode

/-!
# Sample people and trees

A small domain to try trees on: five people, and three lambdas over a person.
-/

namespace Legible

open Json (Decoded)

structure Person where
  firstName : String
  lastName : String
  age : Int32
  city : Option String
  salary : Decimal
  isActive : Bool

namespace Person

def fields (p : Person) : List (String × Value) :=
  [("FirstName", .string p.firstName),
   ("LastName", .string p.lastName),
   ("Age", .int (Int64.ofInt p.age.toInt)),
   ("City", p.city.elim .null .string),
   ("Salary", .decimal p.salary),
   ("IsActive", .bool p.isActive)]

def toValue (p : Person) : Value := .ofFields p.fields

def encode (p : Person) : Json :=
  .object
    [("firstName", .string p.firstName),
     ("lastName", .string p.lastName),
     ("age", .int p.age.toInt),
     ("city", match p.city with
       | some city => .string city
       | none => .null),
     ("salary", .string p.salary.text),
     ("isActive", .bool p.isActive)]

inductive Part where
  | text (s : String)
  | optionalText (s : Option String)
  | age (n : Int32)
  | salary (d : Decimal)
  | flag (b : Bool)

def decodeSalary (j : Json) : Decoded Decimal := do
  let s ← j.asString
  (Decimal.ofText s).mapError fun e => .malformed e.message

def format : Json.RecordFormat Part where
  name := "Person"
  closed := false
  fields :=
    [⟨"firstName", fun j => j.asString.map .text, none, false⟩,
     ⟨"lastName", fun j => j.asString.map .text, none, false⟩,
     ⟨"age", fun j => j.asInt32.map .age, none, false⟩,
     ⟨"city", fun j => (Json.asOptional Json.asString j).map .optionalText,
       some (.optionalText none), false⟩,
     ⟨"salary", fun j => (decodeSalary j).map .salary, none, false⟩,
     ⟨"isActive", fun j => j.asBool.map .flag, none, false⟩]

def decode (j : Json) : Decoded Person := do
  match ← format.read j with
  | [.text first, .text last, .age age, .optionalText city, .salary salary, .flag active] =>
    return ⟨first, last, age, city, salary, active⟩
  | _ => throw (.malformed "parts of another record")

end Person

namespace Sample

def people : List Person :=
  [⟨"John", "Smith", 25, some "New York", .ofInt64 55000, true⟩,
   ⟨"Jane", "Doe", 45, some "New Jersey", .ofInt64 75000, true⟩,
   ⟨"Bob", "Wilson", 70, some "Boston", .ofInt64 40000, false⟩,
   ⟨"Al", "Brown", 22, none, .ofInt64 30000, true⟩,
   ⟨"Sarah", "Johnson", 35, some "Newark", .ofInt64 60000, false⟩]

def personType : Ty := .named "Person" []

def person : Parameter := ⟨"p", personType⟩

def personProperty (name : String) (type : Ty) : Expr := .property (.parameter person) name type

def int (n : Int64) : Expr := .const (.integer n) .int

def text (s : String) : Expr := .const (.string s) .string

def raise (rate : String) : Except Error Expr := do
  let rate ← Expr.decimal rate
  return .multiply (personProperty "Salary" .decimal) rate

def ageBelow (limit : Int64) : Expr := .lessThan (personProperty "Age" .int) (int limit)

def byAge (young middle old : Expr) : Expr :=
  .function [person]
    (.condition (ageBelow 30) young (.condition (ageBelow 50) middle old))

/-- A raise by age: 15% below 30, 8% below 50, else 3%. -/
def salary : Except Error Expr := do
  let young ← raise "1.15"
  let middle ← raise "1.08"
  let old ← raise "1.03"
  return byAge young middle old

def personCity : Expr := personProperty "City" .string

def personLastName : Expr := personProperty "LastName" .string

def textMethod (receiver : Expr) (name : String) (arguments : List Expr) : Expr :=
  .method receiver name .string arguments .string

def shownCity : Expr :=
  textMethod (textMethod (.coalesce personCity (text "Unknown")) "ToUpper" []) "Trim" []

def initialCount : Expr :=
  .staticMethod (.named "Math" []) "Min" [int 3, .property personLastName "Length" .int] .int

def initials : Expr := textMethod personLastName "Substring" [int 0, initialCount]

/-- The city in capitals, or a stand-in, and the first letters of the last name. -/
def strings : Expr :=
  .function [person] (.staticMethod .string "Concat" [shownCity, text " - ", initials] .string)

def hasCity : Expr :=
  .andAlso (.notEqual personCity (.null .string))
    (.greaterThan (.property personCity "Length" .int) (int 0))

def firstLetter : Expr :=
  textMethod (.method (.index personCity [int 0] .char) "ToString" .char [] .string) "ToLower" []

/-- The first letter of the city in lower case, or a stand-in when there is none. -/
def nullSafe : Expr := .function [person] (.condition hasCity firstLetter (text "unknown"))

end Sample

end Legible
