import Legible.Json.Basic
import Legible.Json.Token
import Legible.Number.Reading
import Legible.Text.Class

/-!
# Cutting JSON text into tokens

An automaton that looks at one character at a time. Numbers and constants are gathered as words and
classified when they end, since two of them can never stand side by side.
-/

namespace Legible.Json

/-- At most 127 containers may be open at once, and no comma stands before a closing bracket. -/
def shape : Shape String Json := ⟨.array, .object, some 127, false⟩

/-- What the character before left open. Characters of a word or a text are kept latest first. -/
inductive Scan where
  | blank
  | word (read : List Char)
  | text (read : List Char)
  | escape (read : List Char)
  /-- In a numeric escape with `left` digits to come, after the first half `high` of a pair. -/
  | code (read : List Char) (high : Option Nat) (left value : Nat)
  /-- After the first half of a pair, before the backslash of the second. -/
  | pair (read : List Char) (high : Nat)
  | pairMark (read : List Char) (high : Nat)

def isJsonBlank (c : Char) : Bool := c == ' ' || c == '\n' || c == '\r' || c == '\t'

def isWordChar (c : Char) : Bool :=
  Text.isAsciiDigit c || Text.isAsciiLetter c || c == '-' || c == '+' || c == '.'

/-- An integer that fits 64 bits stays one; any other number is a double. -/
def number? (cs : List Char) : Option Json :=
  let (negative, body) := Text.unsign cs
  match Number.splitUnsigned? negative body with
  | none => none
  | some w =>
    if !Number.isWhole w.whole || (w.point && w.fraction.isEmpty) then none
    else
      let n := Number.natOfDigits w.whole
      if w.point || w.exponent.isSome then w.scaled?.map .float
      else if !negative && decide (n < 0x10000000000000000) then some (.int n)
      else if negative && decide (0 < n) && decide (n ≤ 0x8000000000000000) then
        some (.int (-(n : Int)))
      else w.scaled?.map .float

def word? (cs : List Char) : Option Json :=
  if cs = "null".toList then some .null
  else if cs = "true".toList then some (.bool true)
  else if cs = "false".toList then some (.bool false)
  else number? cs

def wordToken? (cs : List Char) : Option (Token String Json) :=
  (word? cs).map fun v => .atom none (some v)

def textToken (read : List Char) : Token String Json :=
  let s := String.ofList read.reverse
  .atom (some s) (some (.string s))

def scanBlank (c : Char) : Option (Scan × List (Token String Json)) :=
  if isJsonBlank c then some (.blank, [])
  else if c = '"' then some (.text [], [])
  else if isWordChar c then some (.word [c], [])
  else (punctuation? c).map fun t => (.blank, [t])

/-- A complete numeric escape: a character, or a half of a pair. -/
def closeCode (read : List Char) (high : Option Nat) (n : Nat) : Option Scan :=
  match high with
  | none =>
    if 0xD800 ≤ n ∧ n < 0xDC00 then some (.pair read n)
    else if 0xDC00 ≤ n ∧ n < 0xE000 then none
    else some (.text (Char.ofNat n :: read))
  | some h =>
    if 0xDC00 ≤ n ∧ n < 0xE000 then
      some (.text (Char.ofNat (0x10000 + (h - 0xD800) * 0x400 + (n - 0xDC00)) :: read))
    else none

def scanChar (state : Scan) (c : Char) : Option (Scan × List (Token String Json)) :=
  match state with
  | .blank => scanBlank c
  | .word read =>
    if isWordChar c then some (.word (c :: read), [])
    else do
      let token ← wordToken? read.reverse
      let (next, tokens) ← scanBlank c
      return (next, token :: tokens)
  | .text read =>
    if c = '"' then some (.blank, [textToken read])
    else if c = '\\' then some (.escape read, [])
    else if c.toNat < 0x20 then none
    else some (.text (c :: read), [])
  | .escape read =>
    if c = 'u' then some (.code read none 4 0, [])
    else (shortEscape? c).map fun e => (.text (e :: read), [])
  | .code read high left value => do
    let v ← hexValue? c
    if left ≤ 1 then
      let next ← closeCode read high (16 * value + v)
      return (next, [])
    else return (.code read high (left - 1) (16 * value + v), [])
  | .pair read high => if c = '\\' then some (.pairMark read high, []) else none
  | .pairMark read high => if c = 'u' then some (.code read (some high) 4 0, []) else none

/-- The tokens of a text, given the ones already found, the latest first. -/
def scan (state : Scan) (found : List (Token String Json)) :
    List Char → Option (List (Token String Json))
  | [] =>
    match state with
    | .blank => some found.reverse
    | .word read => (wordToken? read.reverse).map fun t => (t :: found).reverse
    | _ => none
  | c :: cs =>
    match scanChar state c with
    | some (next, tokens) => scan next (tokens.reverse ++ found) cs
    | none => none

def parse? (s : String) : Option Json := (scan .blank [] s.toList).bind shape.ofTokens?

end Legible.Json
