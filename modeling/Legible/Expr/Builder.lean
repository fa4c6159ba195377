import Legible.Expr.Basic

/-!
# Building trees

Each function fills in the result type that its operands determine.
-/

namespace Legible.Expr

def const (value : Literal) (type : Ty) : Expr := .constant value type none

def null (type : Ty) : Expr := const .null type

def capture (name : String) (value : Literal) (type : Ty) : Expr :=
  .constant value type (some name)

def decimal (text : String) : Except Error Expr :=
  (DecimalText.parse text).map fun d => const (.decimal d) .decimal

/-- An operation with the type of its left operand. -/
def arithmetic (op : BinaryOp) (left right : Expr) : Expr := .binary op left right left.type

def predicate (op : BinaryOp) (left right : Expr) : Expr := .binary op left right .bool

def add (left right : Expr) : Expr := arithmetic .add left right

def subtract (left right : Expr) : Expr := arithmetic .subtract left right

def multiply (left right : Expr) : Expr := arithmetic .multiply left right

def lessThan (left right : Expr) : Expr := predicate .lessThan left right

def greaterThan (left right : Expr) : Expr := predicate .greaterThan left right

def equal (left right : Expr) : Expr := predicate .equal left right

def notEqual (left right : Expr) : Expr := predicate .notEqual left right

def andAlso (left right : Expr) : Expr := predicate .andAlso left right

def orElse (left right : Expr) : Expr := predicate .orElse left right

/-- `left ?? right`: null remains possible only if the right operand admits it. -/
def coalesce (left right : Expr) : Expr :=
  .binary .coalesce left right
    (if right.type.isNullable then right.type else left.type.nonNullable)

def condition (test ifTrue ifFalse : Expr) : Expr := .conditional test ifTrue ifFalse ifTrue.type

def method (receiver : Expr) (name : String) (declaring : Ty) (arguments : List Expr)
    (type : Ty) : Expr :=
  .call receiver name declaring [] arguments type

def staticMethod (declaring : Ty) (name : String) (arguments : List Expr) (type : Ty) : Expr :=
  .staticCall declaring name [] arguments type

def function (parameters : List Parameter) (body : Expr) : Expr :=
  .lambda parameters body (.function (parameters.map (·.type)) body.type)

end Legible.Expr
