import Legible.Json.Printer

/-!
# Reading data out of JSON values

The faults of a value that does not have the expected form, with their wording, and the readers of
single values. Where a record is read, its keys are visited in the order they are written, and
what is missing is looked for afterwards, in the order of declaration.
-/

namespace Legible

inductive DecodeError where
  | invalidType (found expected : String)
  | invalidValue (found expected : String)
  | invalidLength (length : Nat) (expected : String)
  | unknownVariant (name : String) (known : List String)
  | unknownField (name : String) (known : List String)
  | missingField (name : String)
  | duplicateField (name : String)
  /-- A fault of the text that a value holds. -/
  | malformed (message : String)

namespace DecodeError

def backquoted (s : String) : String := "`" ++ s ++ "`"

/-- `one of a, b, c`, or `a or b` for two. -/
def alternatives (names : List String) : String :=
  match names with
  | [] => "there are no variants"
  | [a] => backquoted a
  | [a, b] => backquoted a ++ " or " ++ backquoted b
  | _ => "one of " ++ ", ".intercalate (names.map backquoted)

def message : DecodeError → String
  | .invalidType found expected => "invalid type: " ++ found ++ ", expected " ++ expected
  | .invalidValue found expected => "invalid value: " ++ found ++ ", expected " ++ expected
  | .invalidLength length expected =>
    "invalid length " ++ toString length ++ ", expected " ++ expected
  | .unknownVariant name known =>
    "unknown variant " ++ backquoted name ++ ", expected " ++ alternatives known
  | .unknownField name known =>
    "unknown field " ++ backquoted name ++ ", expected " ++ alternatives known
  | .missingField name => "missing field " ++ backquoted name
  | .duplicateField name => "duplicate field " ++ backquoted name
  | .malformed text => text

end DecodeError

namespace Json

abbrev Decoded (α : Type) := Except DecodeError α

def found : Json → String
  | .null => "null"
  | .bool b => "boolean " ++ DecodeError.backquoted (if b then "true" else "false")
  | .int n => "integer " ++ DecodeError.backquoted (toString n)
  | .float x => "floating point " ++ DecodeError.backquoted (floatText x)
  | .string s => "string " ++ Text.escaped s
  | .array _ => "sequence"
  | .object _ => "map"

def refuse {α : Type} (j : Json) (expected : String) : Decoded α :=
  .error (.invalidType j.found expected)

def asString : Json → Decoded String
  | .string s => .ok s
  | j => j.refuse "a string"

def asBool : Json → Decoded Bool
  | .bool b => .ok b
  | j => j.refuse "a boolean"

/-- An integer between two bounds, both included, of a kind with the given name. -/
def asInteger (low high : Int) (name : String) : Json → Decoded Int
  | .int n => if low ≤ n ∧ n ≤ high then .ok n else .error (.invalidValue (found (.int n)) name)
  | j => j.refuse name

def asInt64 (j : Json) : Decoded Int64 :=
  (j.asInteger (-9223372036854775808) 9223372036854775807 "i64").map Int64.ofInt

def asInt32 (j : Json) : Decoded Int32 :=
  (j.asInteger (-2147483648) 2147483647 "i32").map Int32.ofInt

def asSize (j : Json) : Decoded Nat :=
  (j.asInteger 0 18446744073709551615 "usize").map Int.toNat

/-- A number; an integer is one, too. -/
def asFloat : Json → Decoded Float
  | .float x => .ok x
  | .int n => .ok (Float.ofInt n)
  | j => j.refuse "f64"

def asChar : Json → Decoded Char
  | .string s =>
    match s.toList with
    | [c] => .ok c
    | _ => .error (.invalidValue (found (.string s)) "a character")
  | j => j.refuse "a character"

def asOptional {α : Type} (decode : Json → Decoded α) : Json → Decoded (Option α)
  | .null => .ok none
  | j => (decode j).map some

/-- A choice and its content: a name alone, or an object with a single key. -/
def asVariant : Json → Decoded (String × Option Json)
  | .string s => .ok (s, none)
  | .object [(name, content)] => .ok (name, some content)
  | .object fields => .error (.invalidValue (found (.object fields)) "map with a single key")
  | j => j.refuse "string or map"

/-- The content of a choice that has none; where `lenient`, an empty object also says so. -/
def asUnit (lenient : Bool) : Option Json → Decoded Unit
  | none => .ok ()
  | some .null => .ok ()
  | some (.object []) => if lenient then .ok () else refuse (.object []) "unit"
  | some j => j.refuse "unit"

def asContent : Option Json → Decoded Json
  | some j => .ok j
  | none => .error (.invalidType "unit variant" "newtype variant")

structure Field (α : Type) where
  name : String
  decode : Json → Decoded α
  /-- The value of a field that is not there; none if it must be. -/
  absent : Option α
  /-- A list of the fields' values may end before this field. -/
  trailing : Bool

/-- A record type of which fields are known; others are skipped or refused. -/
structure RecordFormat (α : Type) where
  name : String
  fields : List (Field α)
  closed : Bool

namespace RecordFormat

variable {α : Type}

def names (r : RecordFormat α) : List String := r.fields.map (·.name)

/-- Reads the known keys in the order they are written. -/
def visit (r : RecordFormat α) (seen : List (String × α)) :
    List (String × Json) → Decoded (List (String × α))
  | [] => .ok seen
  | (key, value) :: rest =>
    match r.fields.find? fun f => f.name == key with
    | none =>
      if r.closed then .error (.unknownField key r.names) else r.visit seen rest
    | some f =>
      if (seen.lookup key).isSome then .error (.duplicateField key)
      else
        match f.decode value with
        | .ok v => r.visit ((key, v) :: seen) rest
        | .error e => .error e

/-- The values of all fields, in order, from the ones that were there. -/
def complete (seen : List (String × α)) : List (Field α) → Decoded (List α)
  | [] => .ok []
  | f :: rest =>
    match seen.lookup f.name, f.absent with
    | some v, _ | none, some v => (complete seen rest).map (v :: ·)
    | none, none => .error (.missingField f.name)

def positional (r : RecordFormat α) (length : Nat) (index : Nat) :
    List (Field α) → List Json → Decoded (List α)
  | [], [] => .ok []
  | [], _ :: _ => .error (.invalidLength length "fewer elements in array")
  | f :: fields, [] =>
    match f.trailing, f.absent with
    | true, some v => (r.positional length (index + 1) fields []).map (v :: ·)
    | _, _ =>
      .error (.invalidLength index
        ("struct " ++ r.name ++ " with " ++ toString r.fields.length ++ " elements"))
  | f :: fields, j :: rest =>
    match f.decode j with
    | .ok v => (r.positional length (index + 1) fields rest).map (v :: ·)
    | .error e => .error e

def read (r : RecordFormat α) : Json → Decoded (List α)
  | .object fields => do
    let seen ← r.visit [] fields
    complete seen r.fields
  | .array items => r.positional items.length 0 r.fields items
  | j => j.refuse ("struct " ++ r.name)

end RecordFormat

end Json

end Legible
