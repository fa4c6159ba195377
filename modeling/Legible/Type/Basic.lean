/-!
# Static types

Every node of a tree carries the type of its result: a keyword type, a nullable type, a named type
with its arguments, or the type of a function.
-/

namespace Legible

inductive Keyword where
  | bool
  | char
  | int
  | long
  | double
  | decimal
  | string
  | object
  | void
deriving DecidableEq

namespace Keyword

def text : Keyword → String
  | .bool => "bool"
  | .char => "char"
  | .int => "int"
  | .long => "long"
  | .double => "double"
  | .decimal => "decimal"
  | .string => "string"
  | .object => "object"
  | .void => "void"

def all : List Keyword :=
  [.bool, .char, .int, .long, .double, .decimal, .string, .object, .void]

def ofText? (s : String) : Option Keyword := all.find? fun k => k.text == s

end Keyword

inductive Ty where
  | keyword (k : Keyword)
  | nullable (inner : Ty)
  | named (name : String) (arguments : List Ty)
  | function (parameters : List Ty) (result : Ty)
deriving Inhabited

namespace Ty

mutual

def decEq : (a b : Ty) → Decidable (a = b)
  | .keyword k, .keyword l => decidable_of_iff (k = l) (by simp)
  | .nullable a, .nullable b =>
    match decEq a b with
    | isTrue h => isTrue (by rw [h])
    | isFalse h => isFalse (by simpa using h)
  | .named n as, .named m bs =>
    match decEqList as bs with
    | isTrue h => decidable_of_iff (n = m) (by simp [h])
    | isFalse h => isFalse (by simp [h])
  | .function as a, .function bs b =>
    match decEqList as bs, decEq a b with
    | isTrue h, isTrue k => isTrue (by rw [h, k])
    | isFalse h, _ => isFalse (by simp [h])
    | _, isFalse k => isFalse (by simp [k])
  | .keyword _, .nullable _ | .keyword _, .named _ _ | .keyword _, .function _ _
  | .nullable _, .keyword _ | .nullable _, .named _ _ | .nullable _, .function _ _
  | .named _ _, .keyword _ | .named _ _, .nullable _ | .named _ _, .function _ _
  | .function _ _, .keyword _ | .function _ _, .nullable _ | .function _ _, .named _ _ =>
    isFalse (by simp)
termination_by structural a => a

def decEqList : (as bs : List Ty) → Decidable (as = bs)
  | [], [] => isTrue rfl
  | a :: as, b :: bs =>
    match decEq a b, decEqList as bs with
    | isTrue h, isTrue k => isTrue (by rw [h, k])
    | isFalse h, _ => isFalse (by simp [h])
    | _, isFalse k => isFalse (by simp [k])
  | [], _ :: _ | _ :: _, [] => isFalse (by simp)
termination_by structural as => as

end

instance : DecidableEq Ty := decEq

@[match_pattern] abbrev bool : Ty := .keyword .bool
@[match_pattern] abbrev char : Ty := .keyword .char
@[match_pattern] abbrev int : Ty := .keyword .int
@[match_pattern] abbrev long : Ty := .keyword .long
@[match_pattern] abbrev double : Ty := .keyword .double
@[match_pattern] abbrev decimal : Ty := .keyword .decimal
@[match_pattern] abbrev string : Ty := .keyword .string
@[match_pattern] abbrev object : Ty := .keyword .object
@[match_pattern] abbrev void : Ty := .keyword .void

mutual

def text : Ty → String
  | .keyword k => k.text
  | .nullable t => text t ++ "?"
  | .named name arguments =>
    match arguments with
    | [] => name
    | t :: ts => name ++ "<" ++ text t ++ moreText ts ++ ">"
  | .function parameters result => "Func<" ++ leadText parameters ++ text result ++ ">"
termination_by structural t => t

/-- The arguments after the first, each behind a comma. -/
def moreText : List Ty → String
  | [] => ""
  | t :: ts => ", " ++ text t ++ moreText ts
termination_by structural ts => ts

/-- The arguments before the last, each in front of a comma. -/
def leadText : List Ty → String
  | [] => ""
  | t :: ts => text t ++ ", " ++ leadText ts
termination_by structural ts => ts

end

/-- The type that also admits null; a nullable type admits it already. -/
def asNullable : Ty → Ty
  | .nullable t => .nullable t
  | t => .nullable t

def nonNullable : Ty → Ty
  | .nullable t => t
  | t => t

def isValueType : Ty → Bool
  | .bool | .char | .int | .long | .double | .decimal => true
  | _ => false

def isNullable (t : Ty) : Bool := !t.isValueType && t != .void

def isNumeric (t : Ty) : Bool :=
  match t.nonNullable with
  | .int | .long | .double | .decimal => true
  | _ => false

def isBool (t : Ty) : Bool := t.nonNullable == .bool

def isOrdered (t : Ty) : Bool := t.isNumeric || t.nonNullable == .char

end Ty

end Legible
