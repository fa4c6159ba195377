import Legible.Expr.Basic
import Legible.Text.Case
import Legible.Value

/-!
# Evaluating a tree

A lambda is applied to argument values. The logical operators, the conditional and the null
coalescing operator evaluate only what they need; everything else evaluates its operands first. A
few methods of strings and numbers are known, and any other is refused.
-/

namespace Legible

inductive EvalError where
  | notLambda (kind : Expr.Kind)
  | arity (expected found : Nat)
  | unbound (name : String)
  | nullReference (member : String)
  | unknownMember (receiver member : String)
  | unsupportedMethod (declaring method : String)
  | indexOutOfRange (index : Int) (length : Nat)
  | type (expected found : String)
  | intOverflow
  | decimalOverflow (cause : Decimal.Overflow)
  | invalidDecimal (text : String)
  | unsupported (node : String)
  /-- The end of a substring lies beyond 64 bits, so that not even the fault can be described. -/
  | endOverflow

def Decimal.Overflow.name : Decimal.Overflow → String
  | .scale => "decimal scale"
  | .rescale => "decimal rescale"
  | .addition => "decimal addition"
  | .subtraction => "decimal subtraction"
  | .multiplication => "decimal multiplication"

def EvalError.message : EvalError → String
  | .notLambda kind => "Expected a lambda, found " ++ kind.name
  | .arity expected found =>
    "Lambda takes " ++ toString expected ++ " arguments, " ++ toString found ++ " given"
  | .unbound name => "Unbound parameter '" ++ name ++ "'"
  | .nullReference member => "Null reference accessing '" ++ member ++ "'"
  | .unknownMember receiver member => "'" ++ receiver ++ "' has no member '" ++ member ++ "'"
  | .unsupportedMethod declaring method => "Unsupported method " ++ declaring ++ "." ++ method
  | .indexOutOfRange index length =>
    "Index " ++ toString index ++ " is out of range for length " ++ toString length
  | .type expected found => "Type error: expected " ++ expected ++ ", found " ++ found
  | .intOverflow => "Arithmetic overflow in int arithmetic"
  | .decimalOverflow cause => "Arithmetic overflow in " ++ cause.name
  | .invalidDecimal text => "Invalid decimal literal: " ++ text
  | .unsupported node => "Cannot evaluate " ++ node ++ " nodes"
  | .endOverflow => "attempt to add with overflow"

def checkedInt64 (n : Int) : Except EvalError Int64 :=
  if -9223372036854775808 ≤ n ∧ n ≤ 9223372036854775807 then .ok (Int64.ofInt n)
  else .error .intOverflow

def Decimal.ofText (s : String) : Except EvalError Decimal :=
  (Decimal.parse s).mapError fun
    | .malformed => .invalidDecimal s
    | .overflow cause => .decimalOverflow cause

namespace Value

def expectBool : Value → Except EvalError Bool
  | .bool b => .ok b
  | v => .error (.type "bool" v.typeName)

def expectInt : Value → Except EvalError Int64
  | .int n => .ok n
  | v => .error (.type "int" v.typeName)

/-- Two numbers brought to one kind. -/
inductive Numbers where
  | int (a b : Int64)
  | decimal (a b : Decimal)
  | double (a b : Float)

def toFloat? : Value → Option Float
  | .int n => some (Float.ofInt n.toInt)
  | .decimal d => some d.toFloat
  | .double x => some x
  | _ => none

def toDecimal? : Value → Option Decimal
  | .int n => some (.ofInt64 n)
  | .decimal d => some d
  | _ => none

/-- Characters count as their code points. -/
def toInt? : Value → Option Int64
  | .int n => some n
  | .char c => some (Int64.ofInt c.toNat)
  | _ => none

/-- A double on either side makes both doubles, else a decimal makes both decimals. -/
def promote (left right : Value) : Option Numbers :=
  match left, right with
  | .double a, b => b.toFloat?.map fun b => .double a b
  | a, .double b => a.toFloat?.map fun a => .double a b
  | .decimal a, b => b.toDecimal?.map fun b => .decimal a b
  | a, .decimal b => a.toDecimal?.map fun a => .decimal a b
  | a, b =>
    match a.toInt?, b.toInt? with
    | some a, some b => some (.int a b)
    | _, _ => none

def compareFloat (a b : Float) : Option Ordering :=
  if a < b then some .lt else if b < a then some .gt else if a == b then some .eq else none

def Numbers.compare : Numbers → Option Ordering
  | .int a b => some (Ord.compare a.toInt b.toInt)
  | .decimal a b => some (a.cmp b)
  | .double a b => compareFloat a b

/-- The order of two values; null has none. -/
def compare (left right : Value) : Except EvalError (Option Ordering) :=
  if left.isNull || right.isNull then .ok none
  else
    match promote left right with
    | some numbers => .ok numbers.compare
    | none => .error (.type "comparable operands" left.typeName)

def equals (left right : Value) : Bool :=
  match promote left right with
  | some numbers => numbers.compare == some .eq
  | none => left == right

inductive Arithmetic where
  | add
  | subtract
  | multiply
deriving DecidableEq

def Arithmetic.onInt : Arithmetic → Int64 → Int64 → Except EvalError Int64
  | .add, a, b => checkedInt64 (a.toInt + b.toInt)
  | .subtract, a, b => checkedInt64 (a.toInt - b.toInt)
  | .multiply, a, b => checkedInt64 (a.toInt * b.toInt)

def Arithmetic.onDecimal : Arithmetic → Decimal → Decimal → Except EvalError Decimal
  | .add, a, b => (a.add b).mapError .decimalOverflow
  | .subtract, a, b => (a.sub b).mapError .decimalOverflow
  | .multiply, a, b => (a.mul b).mapError .decimalOverflow

def Arithmetic.onDouble : Arithmetic → Float → Float → Float
  | .add, a, b => a + b
  | .subtract, a, b => a - b
  | .multiply, a, b => a * b

/-- Arithmetic on two values, null if either is. -/
def arithmetic (op : Arithmetic) (left right : Value) : Except EvalError Value :=
  if left.isNull || right.isNull then .ok .null
  else
    match promote left right with
    | none => .error (.type "numeric operands" left.typeName)
    | some (.int a b) => (op.onInt a b).map .int
    | some (.decimal a b) => (op.onDecimal a b).map .decimal
    | some (.double a b) => .ok (.double (op.onDouble a b))

/-- The operators that evaluate both operands first. -/
def strict (op : BinaryOp) (left right : Value) : Except EvalError Value :=
  match op with
  | .add =>
    if left.isString || right.isString then .ok (.string (left.asText ++ right.asText))
    else arithmetic .add left right
  | .subtract => arithmetic .subtract left right
  | .multiply => arithmetic .multiply left right
  | .lessThan => (compare left right).map fun o => .bool (o == some .lt)
  | .greaterThan => (compare left right).map fun o => .bool (o == some .gt)
  | .equal => .ok (.bool (equals left right))
  | .notEqual => .ok (.bool (!equals left right))
  | .andAlso | .orElse | .coalesce => .error (.unsupported "BinaryOp")

def member (receiver : Value) (name : String) : Except EvalError Value :=
  match receiver with
  | .null => .error (.nullReference name)
  | .record fields =>
    match fields.lookup name with
    | some v => .ok v
    | none => .error (.unknownMember "object" name)
  | .string s =>
    if name = "Length" then .ok (.int (Int64.ofInt s.toList.length))
    else .error (.unknownMember "string" name)
  | v => .error (.unknownMember v.typeName name)

/-- The character at a position, counted in code points. -/
def charAt (receiver : Value) (position : Int64) : Except EvalError Value :=
  match receiver with
  | .string s =>
    let fault : EvalError := .indexOutOfRange position.toInt s.toList.length
    if position.toInt < 0 then .error fault
    else
      match s.toList[position.toInt.toNat]? with
      | some c => .ok (.char c)
      | none => .error fault
  | .null => .error (.nullReference "this[]")
  | v => .error (.type "string" v.typeName)

/-- `length` code points from `start` on, all of which must exist. -/
def substring (s : String) (start length : Int64) : Except EvalError Value :=
  let total := s.toList.length
  if start.toInt < 0 then .error (.indexOutOfRange start.toInt total)
  else if length.toInt < 0 then .error (.indexOutOfRange length.toInt total)
  else
    let stop := start.toInt + length.toInt
    if (total : Int) < stop then
      if stop ≤ 9223372036854775807 then .error (.indexOutOfRange stop total)
      else .error .endOverflow
    else
      .ok (.string (String.ofList ((s.toList.drop start.toInt.toNat).take length.toInt.toNat)))

/-- The smaller or the larger of two values. Of equal ones the first is the smaller. -/
def extreme (smaller : Bool) (a b : Value) : Except EvalError Value := do
  match ← compare a b with
  | none => .error (.type "comparable operands" a.typeName)
  | some order => return if smaller == (order != .gt) then a else b

def callStatic (declaring : Ty) (method : String) (arguments : List Value) :
    Except EvalError Value :=
  let unsupported : Except EvalError Value := .error (.unsupportedMethod declaring.text method)
  match declaring with
  | .string =>
    if method = "Concat" then .ok (.string (String.join (arguments.map asText))) else unsupported
  | .named name _ =>
    if name = "Math" ∧ (method = "Min" ∨ method = "Max") then
      match arguments with
      | [a, b] => extreme (method == "Min") a b
      | _ => unsupported
    else unsupported
  | _ => unsupported

/-- A method of a string, for the methods that only strings have. -/
def callString (s method : String) (arguments : List Value) : Option (Except EvalError Value) :=
  if method = "ToUpper" ∧ arguments.isEmpty then some (.ok (.string (Text.upper s)))
  else if method = "ToLower" ∧ arguments.isEmpty then some (.ok (.string (Text.lower s)))
  else if method = "Trim" ∧ arguments.isEmpty then some (.ok (.string (Text.trim s)))
  else
    match arguments with
    | [start, length] =>
      if method = "Substring" then
        some (do substring s (← start.expectInt) (← length.expectInt))
      else none
    | _ => none

def callMethod (receiver : Value) (declaring : Ty) (method : String) (arguments : List Value) :
    Except EvalError Value :=
  let general : Except EvalError Value :=
    if method = "ToString" ∧ arguments.isEmpty then .ok (.string receiver.asText)
    else .error (.unsupportedMethod declaring.text method)
  match receiver with
  | .null => .error (.nullReference method)
  | .string s => (callString s method arguments).getD general
  | _ => general

end Value

/-- The value of a constant: an integer takes the kind that its type asks for. -/
def Literal.value (literal : Literal) (type : Ty) : Except EvalError Value :=
  match literal with
  | .null => .ok .null
  | .bool b => .ok (.bool b)
  | .integer n =>
    match type.nonNullable with
    | .decimal => .ok (.decimal (.ofInt64 n))
    | .double => .ok (.double (Float.ofInt n.toInt))
    | _ => .ok (.int n)
  | .decimal d => (Decimal.ofText d.text).map .decimal
  | .double x => .ok (.double x)
  | .char c => .ok (.char c)
  | .string s => .ok (.string s)

abbrev Bindings := List (String × Value)

mutual

def evalExpr (bindings : Bindings) : Expr → Except EvalError Value
  | .parameter p =>
    match bindings.lookup p.name with
    | some v => .ok v
    | none => .error (.unbound p.name)
  | .constant value type _ => value.value type
  | .property receiver name _ => do
    let receiver ← evalExpr bindings receiver
    receiver.member name
  | .index receiver arguments _ => do
    let receiver ← evalExpr bindings receiver
    match arguments with
    | [position] =>
      let position ← evalExpr bindings position
      receiver.charAt (← position.expectInt)
    | _ => .error (.unsupported "multi-argument IndexAccess")
  | .binary op left right _ => do
    let left ← evalExpr bindings left
    match op with
    | .andAlso => if ← left.expectBool then evalExpr bindings right else return .bool false
    | .orElse => if ← left.expectBool then return .bool true else evalExpr bindings right
    | .coalesce => if left.isNull then evalExpr bindings right else return left
    | op =>
      let right ← evalExpr bindings right
      Value.strict op left right
  | .conditional test ifTrue ifFalse _ => do
    let test ← evalExpr bindings test
    if ← test.expectBool then evalExpr bindings ifTrue else evalExpr bindings ifFalse
  | .call receiver method declaring _ arguments _ => do
    let arguments ← evalAll bindings arguments
    let receiver ← evalExpr bindings receiver
    receiver.callMethod declaring method arguments
  | .staticCall declaring method _ arguments _ => do
    let arguments ← evalAll bindings arguments
    Value.callStatic declaring method arguments
  | .lambda _ _ _ => .error (.unsupported "nested Lambda")
termination_by structural e => e

def evalAll (bindings : Bindings) : List Expr → Except EvalError (List Value)
  | [] => .ok []
  | e :: rest => do
    let v ← evalExpr bindings e
    let vs ← evalAll bindings rest
    return v :: vs
termination_by structural es => es

end

/-- Pairs parameters with arguments; of two parameters with one name the later holds. -/
def bindParameters (parameters : List Parameter) (arguments : List Value) :
    Except EvalError Bindings :=
  if parameters.length = arguments.length then
    .ok ((parameters.map (·.name)).zip arguments).reverse
  else .error (.arity parameters.length arguments.length)

def evaluate (e : Expr) (arguments : List Value) : Except EvalError Value :=
  match e with
  | .lambda parameters body _ => do
    let bindings ← bindParameters parameters arguments
    evalExpr bindings body
  | e => .error (.notLambda e.kind)

end Legible
