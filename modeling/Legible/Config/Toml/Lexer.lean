import Legible.Json.Token
import Legible.Text.Class

/-!
# Cutting TOML text into tokens

An automaton that looks at one character at a time. There are four sorts of strings: basic ones
have escapes, and long ones may span lines. A point is a token of its own, since it divides the
parts of a key.
-/

namespace Legible.Toml

inductive Token where
  | word (cs : List Char)
  /-- A string; `key` tells whether it is of the one-line sort, which a key may be. -/
  | text (s : String) (key : Bool)
  | opening (b : Json.Bracket)
  | closing (b : Json.Bracket)
  | equals
  | comma
  | point
  | newline

structure Quoting where
  basic : Bool
  long : Bool

def Quoting.mark (q : Quoting) : Char := if q.basic then '"' else '\''

/-- What the character before left open. Characters are kept latest first. -/
inductive Scan where
  | blank
  | word (read : List Char)
  | comment
  /-- After a carriage return, which only a line feed may follow. -/
  | carriage (next : Scan) (tokens : List Token)
  /-- After one or two quotes that may open a string of either length. -/
  | quotes (basic : Bool) (count : Nat)
  /-- After the quotes that open a long string; a line break here is not part of it. -/
  | opened (q : Quoting)
  /-- Inside a string, after `count` quotes of a long one. -/
  | text (q : Quoting) (read : List Char) (count : Nat)
  | escape (q : Quoting) (read : List Char)
  | code (q : Quoting) (read : List Char) (left value : Nat)
  /-- After a backslash and blanks that must go on to the end of the line. -/
  | lineEscape (q : Quoting) (read : List Char)
  /-- After an escaped end of line, until the next visible character. -/
  | continuation (q : Quoting) (read : List Char)
  /-- After the third quote that ends a long string, which may have two more inside. -/
  | closed (q : Quoting) (read : List Char) (extra : Nat)

def isWordChar (c : Char) : Bool :=
  Text.isAsciiLetter c || Text.isAsciiDigit c || c == '_' || c == '-' || c == '+' || c == ':'

def isControl (c : Char) : Bool :=
  (decide (c.toNat < 0x20) && c != '\t') || c.toNat == 0x7F

def textToken (q : Quoting) (read : List Char) : Token :=
  .text (String.ofList read.reverse) (!q.long)

def punctuation? (c : Char) : Option Token :=
  if c = '=' then some .equals
  else if c = ',' then some .comma
  else if c = '.' then some .point
  else if c = '[' then some (.opening .square)
  else if c = ']' then some (.closing .square)
  else if c.toNat = 0x7B then some (.opening .curly)
  else if c.toNat = 0x7D then some (.closing .curly)
  else none

def scanBlank (c : Char) : Option (Scan × List Token) :=
  if c = ' ' ∨ c = '\t' then some (.blank, [])
  else if c = '\n' then some (.blank, [.newline])
  else if c = '\r' then some (.carriage .blank [.newline], [])
  else if c = '#' then some (.comment, [])
  else if c = '"' then some (.quotes true 1, [])
  else if c = '\'' then some (.quotes false 1, [])
  else if isWordChar c then some (.word [c], [])
  else (punctuation? c).map fun t => (.blank, [t])

/-- A character inside a string that ends no string. -/
def scanText (q : Quoting) (read : List Char) (c : Char) : Option (Scan × List Token) :=
  if q.basic ∧ c = '\\' then some (.escape q read, [])
  else if q.long ∧ c = '\n' then some (.text q (c :: read) 0, [])
  else if q.long ∧ c = '\r' then some (.carriage (.text q ('\n' :: '\r' :: read) 0) [], [])
  else if isControl c then none
  else some (.text q (c :: read) 0, [])

def scanEscape (q : Quoting) (read : List Char) (c : Char) : Option (Scan × List Token) :=
  if c = 'x' then some (.code q read 2 0, [])
  else if c = 'u' then some (.code q read 4 0, [])
  else if c = 'U' then some (.code q read 8 0, [])
  else if c = 'e' then some (.text q (Char.ofNat 0x1B :: read) 0, [])
  else if q.long ∧ (c = ' ' ∨ c = '\t') then some (.lineEscape q read, [])
  else if q.long ∧ c = '\n' then some (.continuation q read, [])
  else if q.long ∧ c = '\r' then some (.carriage (.continuation q read) [], [])
  else if c = '/' then none
  else (Json.shortEscape? c).map fun e => (.text q (e :: read) 0, [])

def scanChar (state : Scan) (c : Char) : Option (Scan × List Token) :=
  match state with
  | .blank => scanBlank c
  | .word read =>
    if isWordChar c then some (.word (c :: read), [])
    else (scanBlank c).map fun (next, tokens) => (next, .word read.reverse :: tokens)
  | .comment =>
    if c = '\n' then some (.blank, [.newline])
    else if c = '\r' then some (.carriage .blank [.newline], [])
    else if isControl c then none
    else some (.comment, [])
  | .carriage next tokens => if c = '\n' then some (next, tokens) else none
  | .quotes basic count =>
    let quote := (Quoting.mk basic false).mark
    if count ≤ 1 then
      if c = quote then some (.quotes basic 2, []) else scanText ⟨basic, false⟩ [] c
    else if c = quote then some (.opened ⟨basic, true⟩, [])
    else (scanBlank c).map fun (next, tokens) => (next, .text "" true :: tokens)
  | .opened q =>
    if c = '\n' then some (.text q [] 0, [])
    else if c = '\r' then some (.carriage (.text q [] 0) [], [])
    else if c = q.mark then some (.text q [c] 1, [])
    else scanText q [] c
  | .text q read count =>
    if c = q.mark then
      if !q.long then some (.blank, [textToken q read])
      else if count = 2 then some (.closed q (read.drop 2) 0, [])
      else some (.text q (c :: read) (count + 1), [])
    else scanText q read c
  | .escape q read => scanEscape q read c
  | .code q read left value => do
    let v ← Json.hexValue? c
    let n := 16 * value + v
    if 1 < left then return (.code q read (left - 1) n, [])
    else if n.isValidChar then return (.text q (Char.ofNat n :: read) 0, [])
    else none
  | .lineEscape q read =>
    if c = ' ' ∨ c = '\t' then some (.lineEscape q read, [])
    else if c = '\n' then some (.continuation q read, [])
    else if c = '\r' then some (.carriage (.continuation q read) [], [])
    else none
  | .continuation q read =>
    if c = '\n' ∨ c = ' ' ∨ c = '\t' then some (.continuation q read, [])
    else if c = '\r' then some (.carriage (.continuation q read) [], [])
    else if c = q.mark then some (.text q (c :: read) 1, [])
    else scanText q read c
  | .closed q read extra =>
    if c = q.mark ∧ extra < 2 then some (.closed q (c :: read) (extra + 1), [])
    else (scanBlank c).map fun (next, tokens) => (next, textToken q read :: tokens)

def scan (state : Scan) (found : List Token) : List Char → Option (List Token)
  | [] =>
    match state with
    | .blank | .comment => some found.reverse
    | .word read => some (.word read.reverse :: found).reverse
    | .quotes _ count => if count = 2 then some (.text "" true :: found).reverse else none
    | .closed q read _ => some (textToken q read :: found).reverse
    | _ => none
  | c :: cs =>
    match scanChar state c with
    | some (next, tokens) => scan next (tokens.reverse ++ found) cs
    | none => none

/-- The tokens of a document; a mark of the byte order may precede it. -/
def tokens? (s : String) : Option (List Token) :=
  match s.toList with
  | c :: cs => scan .blank [] (if c.toNat = 0xFEFF then cs else c :: cs)
  | [] => some []

end Legible.Toml
