import Legible.Error
import Legible.Text.Class
import Legible.Type.Basic

/-!
# Reading a type from its text

The text is cut into names and marks, with blanks anywhere between them, and the marks drive a
stack of open argument lists. Whatever does not spell a type is refused with the same fault.
-/

namespace Legible.Ty

inductive Token where
  | name (s : String)
  | opening
  | comma
  | closing
  | question
deriving DecidableEq

def isNameChar (c : Char) : Bool := Text.isAlphanumeric c || c == '_' || c == '.'

/-- A name may not begin like a number. -/
def isNameStart (c : Char) : Bool := isNameChar c && !Text.isAsciiDigit c && c != '.'

def mark? (c : Char) : Option Token :=
  if c = '<' then some .opening
  else if c = ',' then some .comma
  else if c = '>' then some .closing
  else if c = '?' then some .question
  else none

/-- Puts the name that was just read, the latest character first, before the other tokens. -/
def closeName (read : List Char) (rest : List Token) : Option (List Token) :=
  match read.reverse with
  | [] => some rest
  | c :: cs => if isNameStart c then some (.name (String.ofList (c :: cs)) :: rest) else none

def tokensFrom (read : List Char) : List Char → Option (List Token)
  | [] => closeName read []
  | c :: cs =>
    if isNameChar c then tokensFrom (c :: read) cs
    else if Text.isBlank c then (tokensFrom [] cs).bind (closeName read)
    else
      match mark? c with
      | some m => (tokensFrom [] cs).bind fun ts => closeName read (m :: ts)
      | none => none

def tokens? (cs : List Char) : Option (List Token) := tokensFrom [] cs

/-- The type of that name: a keyword or a plain name without arguments, a function type for `Func`
with the result last, and a named type otherwise. -/
def ofName (name : String) (arguments : List Ty) : Ty :=
  match arguments.getLast? with
  | none =>
    match Keyword.ofText? name with
    | some k => .keyword k
    | none => .named name []
  | some result =>
    if name = "Func" then .function arguments.dropLast result else .named name arguments

structure Frame where
  name : String
  arguments : List Ty

inductive State where
  /-- A type begins here. -/
  | start
  /-- A name, whose arguments may follow. -/
  | name (n : String)
  /-- A type that a question mark may follow. -/
  | type (t : Ty)
  /-- A type with its question mark. -/
  | marked (t : Ty)

def State.type? : State → Option Ty
  | .start => none
  | .name n => some (ofName n [])
  | .type t => some t
  | .marked t => some t

def State.canMark : State → Bool
  | .name _ | .type _ => true
  | .start | .marked _ => false

def step (stack : List Frame) (state : State) (token : Token) : Option (List Frame × State) :=
  match token with
  | .name n =>
    match state with
    | .start => some (stack, .name n)
    | _ => none
  | .opening =>
    match state with
    | .name n => some (⟨n, []⟩ :: stack, .start)
    | _ => none
  | .question =>
    if state.canMark then state.type?.map fun t => (stack, .marked t.asNullable) else none
  | .comma =>
    match state.type?, stack with
    | some t, f :: rest => some (⟨f.name, f.arguments ++ [t]⟩ :: rest, .start)
    | _, _ => none
  | .closing =>
    match state.type?, stack with
    | some t, f :: rest => some (rest, .type (ofName f.name (f.arguments ++ [t])))
    | _, _ => none

def run (stack : List Frame) (state : State) : List Token → Option Ty
  | [] => if stack.isEmpty then state.type? else none
  | token :: rest =>
    match step stack state token with
    | some (stack, state) => run stack state rest
    | none => none

def ofTokens? (ts : List Token) : Option Ty := run [] .start ts

def parse? (s : String) : Option Ty := (tokens? s.toList).bind ofTokens?

def parse (s : String) : Except Error Ty :=
  match parse? s with
  | some t => .ok t
  | none => .error (.invalidLiteral "type" s)

end Legible.Ty
