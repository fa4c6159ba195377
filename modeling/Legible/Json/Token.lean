/-!
# From tokens to nested values

Strict and relaxed text have the same brackets, colons and commas around different atoms. One
machine puts the values of both together; what it needs to know of a notation is a `Shape`.
-/

namespace Legible.Json

inductive Bracket where
  | square
  | curly
deriving DecidableEq

/-- A token of a notation with keys of type `κ` and values of type `α`. -/
inductive Token (κ α : Type) where
  | opening (b : Bracket)
  | closing (b : Bracket)
  | colon
  | comma
  /-- A word or a text: what it is as a key and as a value, where it can be one. -/
  | atom (key : Option κ) (value : Option α)

structure Shape (κ α : Type) where
  array : List α → α
  object : List (κ × α) → α
  /-- How many containers may be open at once, if that is limited. -/
  depth : Option Nat
  /-- Whether a comma may stand before a closing bracket. -/
  trailingComma : Bool

/-- A container that is still open: what it holds so far, the latest first. -/
inductive Frame (κ α : Type) where
  | array (items : List α)
  | object (fields : List (κ × α)) (key : κ)

inductive Expectation (κ α : Type) where
  /-- A value; `close` tells whether an array may end here. -/
  | value (close : Bool)
  /-- A key of the object read so far; `close` tells whether it may end here. -/
  | key (fields : List (κ × α)) (close : Bool)
  | colon (fields : List (κ × α)) (key : κ)
  /-- A comma or the end of the innermost container, after a complete value. -/
  | after (value : α)

namespace Shape

variable {κ α : Type}

def admits (shape : Shape κ α) (n : Nat) : Bool :=
  match shape.depth with
  | some limit => decide (n < limit)
  | none => true

/-- One token: the open containers, the innermost first, and what is expected after it. -/
def step (shape : Shape κ α) (stack : List (Frame κ α)) (expected : Expectation κ α)
    (t : Token κ α) : Option (List (Frame κ α) × Expectation κ α) :=
  match expected, t with
  | .value _, .atom _ (some v) => some (stack, .after v)
  | .value _, .opening .square =>
    if shape.admits stack.length then some (.array [] :: stack, .value true) else none
  | .value _, .opening .curly =>
    if shape.admits stack.length then some (stack, .key [] true) else none
  | .value true, .closing .square =>
    match stack with
    | .array items :: rest => some (rest, .after (shape.array items.reverse))
    | _ => none
  | .key fields _, .atom (some k) _ => some (stack, .colon fields k)
  | .key fields true, .closing .curly => some (stack, .after (shape.object fields.reverse))
  | .colon fields k, .colon => some (.object fields k :: stack, .value false)
  | .after v, .comma =>
    match stack with
    | .array items :: rest => some (.array (v :: items) :: rest, .value shape.trailingComma)
    | .object fields k :: rest => some (rest, .key ((k, v) :: fields) shape.trailingComma)
    | [] => none
  | .after v, .closing .square =>
    match stack with
    | .array items :: rest => some (rest, .after (shape.array (v :: items).reverse))
    | _ => none
  | .after v, .closing .curly =>
    match stack with
    | .object fields k :: rest => some (rest, .after (shape.object ((k, v) :: fields).reverse))
    | _ => none
  | _, _ => none

def assemble (shape : Shape κ α) (stack : List (Frame κ α)) (expected : Expectation κ α) :
    List (Token κ α) → Option α
  | [] =>
    match stack, expected with
    | [], .after v => some v
    | _, _ => none
  | t :: ts =>
    match shape.step stack expected t with
    | some (stack, expected) => shape.assemble stack expected ts
    | none => none

def ofTokens? (shape : Shape κ α) (ts : List (Token κ α)) : Option α :=
  shape.assemble [] (.value false) ts

end Shape

variable {κ α : Type}

def punctuation? (c : Char) : Option (Token κ α) :=
  if c = '[' then some (.opening .square)
  else if c = ']' then some (.closing .square)
  else if c.toNat = 0x7B then some (.opening .curly)
  else if c.toNat = 0x7D then some (.closing .curly)
  else if c = ':' then some .colon
  else if c = ',' then some .comma
  else none

def hexValue? (c : Char) : Option Nat :=
  if '0' ≤ c ∧ c ≤ '9' then some (c.toNat - '0'.toNat)
  else if 'a' ≤ c ∧ c ≤ 'f' then some (c.toNat - 'a'.toNat + 10)
  else if 'A' ≤ c ∧ c ≤ 'F' then some (c.toNat - 'A'.toNat + 10)
  else none

def shortEscape? (c : Char) : Option Char :=
  if c = '"' ∨ c = '\\' ∨ c = '/' then some c
  else if c = 'b' then some (Char.ofNat 8)
  else if c = 'f' then some (Char.ofNat 12)
  else if c = 'n' then some '\n'
  else if c = 'r' then some '\r'
  else if c = 't' then some '\t'
  else none

end Legible.Json
