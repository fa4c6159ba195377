import Legible.Config.Relaxed.Document
import Legible.Text.Class
import Legible.Text.Table.Mark

/-!
# Cutting relaxed JSON into tokens

Comments are blanks, texts take single quotes too and go on in the next line after a backslash, and
a key may be a bare name. A word is gathered without regard to what it is: whether a value or a key
is wanted decides that.
-/

namespace Legible.Relaxed

open Json (Token)

abbrev Tokens := List (Token (Option String) Document)

inductive Place where
  | name
  | text (quote : Char)

/-- What the character before left open. What was read of a word or a text is kept latest first. -/
inductive Scan where
  | blank
  | inside (p : Place) (read : List Glyph)
  | escape (p : Place) (read : List Glyph)
  /-- After an escaped carriage return, which takes a line feed with it. -/
  | continuation (p : Place) (read : List Glyph)
  /-- In a numeric escape with `left` digits to come; a `short` one is never half of a pair. -/
  | code (p : Place) (read : List Glyph) (short : Bool) (left value : Nat)
  | slash
  | lineComment
  | comment
  | commentStar

def isRelaxedBlank (c : Char) : Bool := Text.isBlank c && c.toNat != 0x85 || c.toNat == 0xFEFF

def isLineEnd (c : Char) : Bool :=
  c == '\n' || c == '\r' || c.toNat == 0x2028 || c.toNat == 0x2029

def startsName (c : Char) : Bool :=
  Text.isAsciiLetter c || c == '$' || c == '_' ||
    (decide (0x80 ≤ c.toNat) && Text.inRanges Text.Table.alphabetic c.toNat)

/-- Joiners and the signs that connect words. -/
def connectors : List (Nat × Nat) :=
  [(0x200C, 0x200D), (0x203F, 0x2040), (0x2054, 0x2054), (0xFE33, 0xFE34), (0xFE4D, 0xFE4F),
   (0xFF3F, 0xFF3F)]

def continuesName (c : Char) : Bool :=
  startsName c || Text.isAlphanumeric c || Text.inRanges Text.Table.mark c.toNat ||
    Text.inRanges connectors c.toNat

def isWordChar (c : Char) : Bool := continuesName c || c == '-' || c == '+' || c == '.'

/-- An escape may stand for any character of a name. -/
def isName (glyphs : List Glyph) : Bool :=
  match glyphs with
  | [] => false
  | g :: rest =>
    (match g with
      | .char c => startsName c
      | .code _ => true) &&
    rest.all fun
      | .char c => continuesName c
      | .code _ => true

/-- A word as it is written; none if there is an escape in it. -/
def plain? (glyphs : List Glyph) : Option (List Char) :=
  glyphs.mapM fun
    | .char c => some c
    | .code _ => none

def word? (cs : List Char) : Option Document :=
  if cs = "null".toList then some .null
  else if cs = "true".toList then some (.bool true)
  else if cs = "false".toList then some (.bool false)
  else if isNumber cs then some (.number cs)
  else none

def wordToken? (read : List Glyph) : Option (Token (Option String) Document) :=
  let glyphs := read.reverse
  let key := if isName glyphs then some (text? glyphs) else none
  let value := (plain? glyphs).bind word?
  if key.isSome || value.isSome then some (.atom key value) else none

def textToken (read : List Glyph) : Token (Option String) Document :=
  let s := text? read.reverse
  .atom (some s) (some (.text s))

/-- The character that a one-letter escape stands for: itself, unless a rule says otherwise. -/
def shortEscape? (c : Char) : Option Char :=
  match Json.shortEscape? c with
  | some e => some e
  | none =>
    if c = 'v' then some (Char.ofNat 11)
    else if c = '0' then some (Char.ofNat 0)
    else if Text.isAsciiDigit c || isLineEnd c then none
    else some c

def scanBlank (c : Char) : Option (Scan × Tokens) :=
  if isRelaxedBlank c then some (.blank, [])
  else if c = '"' ∨ c = '\'' then some (.inside (.text c) [], [])
  else if c = '/' then some (.slash, [])
  else if c = '\\' then some (.escape .name [], [])
  else if isWordChar c then some (.inside .name [.char c], [])
  else (Json.punctuation? c).map fun t => (.blank, [t])

def scanInside (p : Place) (read : List Glyph) (c : Char) : Option (Scan × Tokens) :=
  if c = '\\' then some (.escape p read, [])
  else
    match p with
    | .name =>
      if isWordChar c then some (.inside .name (.char c :: read), [])
      else do
        let token ← wordToken? read
        let (next, tokens) ← scanBlank c
        return (next, token :: tokens)
    | .text quote =>
      if c = quote then some (.blank, [textToken read])
      else if isLineEnd c then none
      else some (.inside p (.char c :: read), [])

def scanEscape (p : Place) (read : List Glyph) (c : Char) : Option (Scan × Tokens) :=
  if c = 'u' then some (.code p read false 4 0, [])
  else
    match p with
    | .name => none
    | .text _ =>
      if c = 'x' then some (.code p read true 2 0, [])
      else if c = '\r' then some (.continuation p read, [])
      else if isLineEnd c then some (.inside p read, [])
      else (shortEscape? c).map fun e => (.inside p (.char e :: read), [])

def scanChar (state : Scan) (c : Char) : Option (Scan × Tokens) :=
  match state with
  | .blank => scanBlank c
  | .inside p read => scanInside p read c
  | .escape p read => scanEscape p read c
  | .continuation p read => if c = '\n' then some (.inside p read, []) else scanInside p read c
  | .code p read short left value => do
    let v ← Json.hexValue? c
    let n := 16 * value + v
    if 1 < left then return (.code p read short (left - 1) n, [])
    else return (.inside p ((if short then .char (Char.ofNat n) else .code n) :: read), [])
  | .slash =>
    if c = '/' then some (.lineComment, [])
    else if c = '*' then some (.comment, [])
    else none
  | .lineComment => if isLineEnd c then some (.blank, []) else some (.lineComment, [])
  | .comment => if c = '*' then some (.commentStar, []) else some (.comment, [])
  | .commentStar =>
    if c = '/' then some (.blank, [])
    else if c = '*' then some (.commentStar, [])
    else some (.comment, [])

def scan (state : Scan) (found : Tokens) : List Char → Option Tokens
  | [] =>
    match state with
    | .blank | .lineComment => some found.reverse
    | .inside .name read => (wordToken? read).map fun t => (t :: found).reverse
    | _ => none
  | c :: cs =>
    match scanChar state c with
    | some (next, tokens) => scan next (tokens.reverse ++ found) cs
    | none => none

def parse? (s : String) : Option Document := (scan .blank [] s.toList).bind shape.ofTokens?

end Legible.Relaxed
