import Legible.Json.Basic
import Legible.Number.Format
import Legible.Text.Escaped

/-!
# JSON text

The compact form has no blanks; the indented form puts every item on a line of its own, two spaces
deeper than its container. A double that is not finite is written as `null`.
-/

namespace Legible.Json

def hex4 (n : Nat) : String :=
  let digits := Nat.toDigits 16 n
  String.ofList (List.replicate (4 - digits.length) '0' ++ digits)

def quotedChar (c : Char) : String :=
  if c = '"' then "\\\""
  else if c = '\\' then "\\\\"
  else if c = '\n' then "\\n"
  else if c = '\r' then "\\r"
  else if c = '\t' then "\\t"
  else if c.toNat = 8 then "\\b"
  else if c.toNat = 12 then "\\f"
  else if c.toNat < 0x20 then "\\u" ++ hex4 c.toNat
  else c.toString

def quoted (s : String) : String := "\"" ++ String.join (s.toList.map quotedChar) ++ "\""

def floatText (x : Float) : String :=
  if x.isNaN || x.isInf then "null" else Number.data.write x

mutual

def compact : Json → String
  | .null => "null"
  | .bool b => if b then "true" else "false"
  | .int n => toString n
  | .float x => floatText x
  | .string s => quoted s
  | .array items => "[" ++ ",".intercalate (compactItems items) ++ "]"
  | .object fields => "\x7b" ++ ",".intercalate (compactFields fields) ++ "\x7d"
termination_by structural j => j

def compactItems : List Json → List String
  | [] => []
  | item :: rest => compact item :: compactItems rest
termination_by structural items => items

def compactFields : List (String × Json) → List String
  | [] => []
  | (name, value) :: rest => (quoted name ++ ":" ++ compact value) :: compactFields rest
termination_by structural fields => fields

end

/-- Items on lines of their own between two brackets, or the brackets alone. -/
def block (depth : Nat) (opening closing : String) (items : List String) : String :=
  match items with
  | [] => opening ++ closing
  | _ =>
    let indent := String.ofList (List.replicate (2 * depth) ' ')
    let separator := ",\n" ++ indent ++ "  "
    opening ++ "\n" ++ indent ++ "  " ++ separator.intercalate items ++ "\n" ++ indent ++ closing

mutual

def indentedAt (depth : Nat) : Json → String
  | .array items => block depth "[" "]" (indentedItems (depth + 1) items)
  | .object fields => block depth "\x7b" "\x7d" (indentedFields (depth + 1) fields)
  | .null => "null"
  | .bool b => if b then "true" else "false"
  | .int n => toString n
  | .float x => floatText x
  | .string s => quoted s
termination_by structural j => j

def indentedItems (depth : Nat) : List Json → List String
  | [] => []
  | item :: rest => indentedAt depth item :: indentedItems depth rest
termination_by structural items => items

def indentedFields (depth : Nat) : List (String × Json) → List String
  | [] => []
  | (name, value) :: rest =>
    (quoted name ++ ": " ++ indentedAt depth value) :: indentedFields depth rest
termination_by structural fields => fields

end

def indented (j : Json) : String := indentedAt 0 j

end Legible.Json
