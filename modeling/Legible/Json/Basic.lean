/-!
# JSON values

An object keeps its fields in the order they were written, repeated keys included, because both
the text it is printed to and the first fault found in it depend on that order.
-/

namespace Legible

inductive Json where
  | null
  | bool (b : Bool)
  | int (n : Int)
  | float (x : Float)
  | string (s : String)
  | array (items : List Json)
  | object (fields : List (String × Json))
deriving Inhabited

namespace Json

/-- Puts a field at the end, or in the place of the field of that name. -/
def setField (name : String) (value : Json) : List (String × Json) → List (String × Json)
  | [] => [(name, value)]
  | (n, v) :: rest => if n = name then (name, value) :: rest else (n, v) :: setField name value rest

end Json

end Legible
