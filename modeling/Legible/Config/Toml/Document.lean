import Legible.Config.Toml.Lexer
import Legible.Json.Printer

/-!
# TOML documents

Lines `key = value` under headers, where a value is a string, an integer, a boolean, an empty list
or an inline table. No setting takes a list with items, a fraction or a date, so a document with
one of these is refused as a whole. A table is made in one place: what a header or a key has
defined, no other may define again.
-/

namespace Legible.Toml

inductive Origin where
  /-- The header of a table inside it. -/
  | nested
  /-- A header of its own. -/
  | header
  /-- A key with several parts. -/
  | key
  /-- Braces, which hold all of it. -/
  | braces
deriving DecidableEq

inductive Value where
  | text (s : String)
  | flag (b : Bool)
  | integer (n : Int)
  | emptyList
  | table (origin : Origin) (fields : List (String × Value))

abbrev Fields := List (String × Value)

/-- Puts a value at the end, or in the place of the one of that name. -/
def put (name : String) (value : Value) : Fields → Fields
  | [] => [(name, value)]
  | (n, v) :: rest => if n = name then (name, value) :: rest else (n, v) :: put name value rest

/-- Changes what the last name of a path stands for; the tables on the way are made if they are
not there, and must be open to additions if they are. -/
def alter (origin : Origin) (change : Option Value → Option Value) :
    List String → Fields → Option Fields
  | [], _ => none
  | [name], fields => (change (fields.lookup name)).map fun v => put name v fields
  | name :: next :: rest, fields =>
    match fields.lookup name with
    | none => (alter origin change (next :: rest) []).map fun inner =>
        put name (.table origin inner) fields
    | some (.table made inner) =>
      if made = .braces then none
      else (alter origin change (next :: rest) inner).map fun inner =>
        put name (.table made inner) fields
    | some _ => none

/-- Gives a key its value, which it must not have yet. -/
def assign (path : List String) (value : Value) : Fields → Option Fields :=
  alter .key (fun old => if old.isSome then none else some value) path

/-- Makes the table of a header, which at most the header of an inner table may have made. -/
def declare (path : List String) : Fields → Option Fields :=
  alter .nested (fun
    | none => some (.table .header [])
    | some (.table .nested inner) => some (.table .header inner)
    | some _ => none) path

/-- Digits of a base with single underscores between them. -/
def digits? (base : Nat) : List Char → Option (List Nat)
  | [] => none
  | [c] => (digit? c).map fun d => [d]
  | c :: '_' :: rest => do
    let d ← digit? c
    let ds ← digits? base rest
    return d :: ds
  | c :: rest => do
    let d ← digit? c
    let ds ← digits? base rest
    return d :: ds
where
  digit? (c : Char) : Option Nat := (Json.hexValue? c).filter (· < base)

def natOf (base : Nat) (ds : List Nat) : Nat := ds.foldl (fun n d => base * n + d) 0

/-- An integer that fits 64 bits, signed or not: decimal and perhaps with a sign, or in another
base without one. -/
def integer? (cs : List Char) : Option Int :=
  let value? : Option Int :=
    match cs with
    | '0' :: 'x' :: r => (digits? 16 r).map fun ds => natOf 16 ds
    | '0' :: 'o' :: r => (digits? 8 r).map fun ds => natOf 8 ds
    | '0' :: 'b' :: r => (digits? 2 r).map fun ds => natOf 2 ds
    | '-' :: r => (decimal? r).map fun n => -(n : Int)
    | '+' :: r => (decimal? r).map fun n => (n : Int)
    | r => (decimal? r).map fun n => (n : Int)
  value?.filter fun n => decide (-9223372036854775808 ≤ n) && decide (n ≤ 18446744073709551615)
where
  decimal? (cs : List Char) : Option Nat := do
    let ds ← digits? 10 cs
    if ds.head? = some 0 ∧ ds.length ≠ 1 then none else return natOf 10 ds

def key? : Token → Option String
  | .word cs =>
    if cs.all fun c => Text.isAsciiLetter c || Text.isAsciiDigit c || c == '_' || c == '-' then
      some (String.ofList cs)
    else none
  | .text s true => some s
  | _ => none

def scalar? : Token → Option Value
  | .text s _ => some (.text s)
  | .word cs =>
    if cs = "true".toList then some (.flag true)
    else if cs = "false".toList then some (.flag false)
    else (integer? cs).map .integer
  | _ => none

/-- An inline table that is still open: the key it is the value of, and what it holds so far. -/
structure Frame where
  path : List String
  fields : Fields

/-- What may come next. Paths are kept with the latest part first, and the innermost open table
comes first. -/
inductive Expectation where
  /-- The start of a line. -/
  | line
  | headerPart (path : List String)
  | headerNext (path : List String)
  | keyPart (frames : List Frame) (path : List String)
  | keyNext (frames : List Frame) (path : List String)
  | value (frames : List Frame) (path : List String)
  /-- The end of an empty list. -/
  | listEnd (frames : List Frame) (path : List String)
  /-- In an inline table, a key or the closing brace. -/
  | entry (frame : Frame) (frames : List Frame)
  /-- In an inline table, a comma or the closing brace. -/
  | entryEnd (frame : Frame) (frames : List Frame)
  | lineEnd

structure Progress where
  fields : Fields
  header : List String

/-- A complete value of the key `path`, which is kept latest part first. -/
def Progress.store (p : Progress) (frames : List Frame) (path : List String) (v : Value) :
    Option (Progress × Expectation) :=
  match frames with
  | [] => (assign (p.header ++ path.reverse) v p.fields).map fun fields =>
      ({ p with fields }, .lineEnd)
  | frame :: rest => (assign path.reverse v frame.fields).map fun fields =>
      (p, .entryEnd { frame with fields } rest)

def Progress.close (p : Progress) (frame : Frame) (frames : List Frame) :
    Option (Progress × Expectation) :=
  p.store frames frame.path (.table .braces frame.fields)

def Progress.step (p : Progress) (expected : Expectation) (t : Token) :
    Option (Progress × Expectation) :=
  match expected, t with
  | .line, .newline => some (p, .line)
  | .line, .opening .square => some (p, .headerPart [])
  | .line, t => (key? t).map fun k => (p, .keyNext [] [k])
  | .headerPart path, t => (key? t).map fun k => (p, .headerNext (k :: path))
  | .headerNext path, .point => some (p, .headerPart path)
  | .headerNext path, .closing .square =>
    (declare path.reverse p.fields).map fun fields => (⟨fields, path.reverse⟩, .lineEnd)
  | .keyPart frames path, t => (key? t).map fun k => (p, .keyNext frames (k :: path))
  | .keyNext frames path, .point => some (p, .keyPart frames path)
  | .keyNext frames path, .equals => some (p, .value frames path)
  | .value frames path, .opening .square => some (p, .listEnd frames path)
  | .value frames path, .opening .curly => some (p, .entry ⟨path, []⟩ frames)
  | .value frames path, t => (scalar? t).bind fun v => p.store frames path v
  | .listEnd frames path, .newline => some (p, .listEnd frames path)
  | .listEnd frames path, .closing .square => p.store frames path .emptyList
  | .entry frame frames, .newline => some (p, .entry frame frames)
  | .entry frame frames, .closing .curly => p.close frame frames
  | .entry frame frames, t => (key? t).map fun k => (p, .keyNext (frame :: frames) [k])
  | .entryEnd frame frames, .newline => some (p, .entryEnd frame frames)
  | .entryEnd frame frames, .comma => some (p, .entry frame frames)
  | .entryEnd frame frames, .closing .curly => p.close frame frames
  | .lineEnd, .newline => some (p, .line)
  | _, _ => none

def Progress.run (p : Progress) (expected : Expectation) : List Token → Option Fields
  | [] =>
    match expected with
    | .line | .lineEnd => some p.fields
    | _ => none
  | t :: ts =>
    match p.step expected t with
    | some (p, expected) => p.run expected ts
    | none => none

def parse? (s : String) : Option Fields := (tokens? s).bind (Progress.run ⟨[], []⟩ .line)

def valueText : Json → String
  | .string s => Json.quoted s
  | j => j.compact

def write (fields : List (String × Json)) : String :=
  String.join (fields.map fun (name, value) => name ++ " = " ++ valueText value ++ "\n")

end Legible.Toml
