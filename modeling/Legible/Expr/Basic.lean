import Legible.Literal
import Legible.Type.Basic

/-!
# Expression trees

A closed set of node kinds, each with the static type of its result. A tree is data: nothing here
asks whether its types fit together.
-/

namespace Legible

inductive BinaryOp where
  | add
  | subtract
  | multiply
  | lessThan
  | greaterThan
  | equal
  | notEqual
  | andAlso
  | orElse
  | coalesce
deriving DecidableEq

namespace BinaryOp

def all : List BinaryOp :=
  [.add, .subtract, .multiply, .lessThan, .greaterThan, .equal, .notEqual, .andAlso, .orElse,
   .coalesce]

def symbol : BinaryOp → String
  | .add => "+"
  | .subtract => "-"
  | .multiply => "*"
  | .lessThan => "<"
  | .greaterThan => ">"
  | .equal => "=="
  | .notEqual => "!="
  | .andAlso => "&&"
  | .orElse => "||"
  | .coalesce => "??"

def name : BinaryOp → String
  | .add => "Add"
  | .subtract => "Subtract"
  | .multiply => "Multiply"
  | .lessThan => "LessThan"
  | .greaterThan => "GreaterThan"
  | .equal => "Equal"
  | .notEqual => "NotEqual"
  | .andAlso => "AndAlso"
  | .orElse => "OrElse"
  | .coalesce => "Coalesce"

def tag : BinaryOp → String
  | .add => "add"
  | .subtract => "subtract"
  | .multiply => "multiply"
  | .lessThan => "lessThan"
  | .greaterThan => "greaterThan"
  | .equal => "equal"
  | .notEqual => "notEqual"
  | .andAlso => "andAlso"
  | .orElse => "orElse"
  | .coalesce => "coalesce"

def ofTag? (s : String) : Option BinaryOp := all.find? fun op => op.tag == s

def isComparison : BinaryOp → Bool
  | .lessThan | .greaterThan | .equal | .notEqual => true
  | _ => false

def isLogical : BinaryOp → Bool
  | .andAlso | .orElse => true
  | _ => false

end BinaryOp

structure Parameter where
  name : String
  type : Ty
deriving DecidableEq

inductive Expr where
  | parameter (p : Parameter)
  /-- A literal, or the value of the outer variable `captured`. -/
  | constant (value : Literal) (type : Ty) (captured : Option String)
  | property (receiver : Expr) (name : String) (type : Ty)
  | index (receiver : Expr) (arguments : List Expr) (type : Ty)
  | binary (op : BinaryOp) (left right : Expr) (type : Ty)
  | conditional (test ifTrue ifFalse : Expr) (type : Ty)
  /-- A method of an object. -/
  | call (receiver : Expr) (method : String) (declaring : Ty) (typeArguments : List Ty)
      (arguments : List Expr) (type : Ty)
  /-- A method of a type. -/
  | staticCall (declaring : Ty) (method : String) (typeArguments : List Ty)
      (arguments : List Expr) (type : Ty)
  | lambda (parameters : List Parameter) (body : Expr) (type : Ty)

namespace Expr

/-- The kinds a diagnostic or the serialized form tells apart. -/
inductive Kind where
  | parameter
  | constant
  | property
  | index
  | binary
  | conditional
  | call
  | lambda
deriving DecidableEq

namespace Kind

def all : List Kind :=
  [.parameter, .constant, .property, .index, .binary, .conditional, .call, .lambda]

/-- The name in diagnostics. -/
def name : Kind → String
  | .parameter => "Parameter"
  | .constant => "Constant"
  | .property => "PropertyAccess"
  | .index => "IndexAccess"
  | .binary => "BinaryOp"
  | .conditional => "Conditional"
  | .call => "MethodCall"
  | .lambda => "Lambda"

def tag : Kind → String
  | .parameter => "parameter"
  | .constant => "constant"
  | .property => "property"
  | .index => "index"
  | .binary => "binary"
  | .conditional => "conditional"
  | .call => "call"
  | .lambda => "lambda"

def ofTag? (s : String) : Option Kind := all.find? fun k => k.tag == s

end Kind

def kind : Expr → Kind
  | .parameter _ => .parameter
  | .constant _ _ _ => .constant
  | .property _ _ _ => .property
  | .index _ _ _ => .index
  | .binary _ _ _ _ => .binary
  | .conditional _ _ _ _ => .conditional
  | .call _ _ _ _ _ _ => .call
  | .staticCall _ _ _ _ _ => .call
  | .lambda _ _ _ => .lambda

def type : Expr → Ty
  | .parameter p => p.type
  | .constant _ t _ => t
  | .property _ _ t => t
  | .index _ _ t => t
  | .binary _ _ _ t => t
  | .conditional _ _ _ t => t
  | .call _ _ _ _ _ t => t
  | .staticCall _ _ _ _ t => t
  | .lambda _ _ t => t

mutual

/-- Equality up to the equality of literal values. -/
def beq : Expr → Expr → Bool
  | .parameter p, .parameter q => p == q
  | .constant v t c, .constant w u d => v == w && t == u && c == d
  | .property a n t, .property b m u => beq a b && n == m && t == u
  | .index a as t, .index b bs u => beq a b && beqList as bs && t == u
  | .binary o a b t, .binary p c d u => o == p && beq a c && beq b d && t == u
  | .conditional a b c t, .conditional d e f u => beq a d && beq b e && beq c f && t == u
  | .call a m d ts as t, .call b n e us bs u =>
    beq a b && m == n && d == e && ts == us && beqList as bs && t == u
  | .staticCall d m ts as t, .staticCall e n us bs u =>
    d == e && m == n && ts == us && beqList as bs && t == u
  | .lambda ps a t, .lambda qs b u => ps == qs && beq a b && t == u
  | _, _ => false
termination_by structural a => a

def beqList : List Expr → List Expr → Bool
  | [], [] => true
  | a :: as, b :: bs => beq a b && beqList as bs
  | _, _ => false
termination_by structural as => as

end

instance : BEq Expr := ⟨beq⟩

/-- A call of `string.Concat` that reads as a sum: one of its first two arguments is a string, so
the sum of the same operands is a concatenation from the start. -/
def isConcatenation : Expr → Bool
  | .staticCall declaring method _ arguments _ =>
    method == "Concat" && declaring == .string && decide (2 ≤ arguments.length) &&
      (arguments.take 2).any fun a => a.type == .string
  | _ => false

end Expr

end Legible
