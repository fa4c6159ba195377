import Legible.Expr.Basic

/-!
# Binding strengths

How tightly each node holds its operands together, and when an operand has to be put in
parentheses to stay one. Binary operators are looked up in a table, which may lack one.
-/

namespace Legible

inductive Strength where
  | lowest
  | lambda
  | conditional
  | orElse
  | andAlso
  | equality
  | relational
  | coalesce
  | additive
  | multiplicative
  | unary
  | primary
deriving DecidableEq

namespace Strength

def all : List Strength :=
  [.lowest, .lambda, .conditional, .orElse, .andAlso, .equality, .relational, .coalesce,
   .additive, .multiplicative, .unary, .primary]

def level : Strength → Nat
  | .lowest => 0
  | .lambda => 1
  | .conditional => 2
  | .orElse => 3
  | .andAlso => 4
  | .equality => 5
  | .relational => 6
  | .coalesce => 7
  | .additive => 8
  | .multiplicative => 9
  | .unary => 10
  | .primary => 11

def name : Strength → String
  | .lowest => "Lowest"
  | .lambda => "Lambda"
  | .conditional => "Conditional"
  | .orElse => "OrElse"
  | .andAlso => "AndAlso"
  | .equality => "Equality"
  | .relational => "Relational"
  | .coalesce => "Coalesce"
  | .additive => "Additive"
  | .multiplicative => "Multiplicative"
  | .unary => "Unary"
  | .primary => "Primary"

end Strength

inductive Associativity where
  | left
  | right
  | none
deriving DecidableEq

inductive Side where
  | left
  | right
deriving DecidableEq

structure Binding where
  strength : Strength
  associativity : Associativity
deriving DecidableEq

namespace Binding

def conditional : Binding := ⟨.conditional, .right⟩

def memberAccess : Binding := ⟨.primary, .left⟩

def concatenation : Binding := ⟨.additive, .left⟩

/-- An operand of the same strength stands bare only on the side the operator associates to. -/
def groups (parent : Binding) (child : Strength) (side : Side) : Bool :=
  if child = parent.strength then
    match parent.associativity, side with
    | .left, .left | .right, .right => false
    | _, _ => true
  else decide (child.level < parent.strength.level)

end Binding

namespace BinaryOp

def bindings : List (BinaryOp × Binding) :=
  [(.orElse, ⟨.orElse, .left⟩),
   (.andAlso, ⟨.andAlso, .left⟩),
   (.equal, ⟨.equality, .left⟩),
   (.notEqual, ⟨.equality, .left⟩),
   (.lessThan, ⟨.relational, .left⟩),
   (.greaterThan, ⟨.relational, .left⟩),
   (.coalesce, ⟨.coalesce, .right⟩),
   (.add, ⟨.additive, .left⟩),
   (.subtract, ⟨.additive, .left⟩),
   (.multiply, ⟨.multiplicative, .left⟩)]

def lookup (table : List (BinaryOp × Binding)) (op : BinaryOp) : Except Error Binding :=
  match table.find? fun row => row.1 = op with
  | some row => .ok row.2
  | none => .error (.precedenceGap op.name)

def binding? (op : BinaryOp) : Except Error Binding := lookup bindings op

end BinaryOp

def Expr.strength? (e : Expr) : Except Error Strength :=
  match e with
  | .binary op _ _ _ => op.binding?.map (·.strength)
  | .conditional _ _ _ _ => .ok Binding.conditional.strength
  | .lambda _ _ _ => .ok .lambda
  | .staticCall _ _ _ _ _ =>
    .ok (if e.isConcatenation then Binding.concatenation.strength else .primary)
  | .constant value _ _ => .ok (if value.isNegative then .unary else .primary)
  | .parameter _ | .property _ _ _ | .index _ _ _ | .call _ _ _ _ _ _ => .ok .primary

end Legible
