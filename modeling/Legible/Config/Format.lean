import Legible.Config.Layer
import Legible.Config.Relaxed.Lexer
import Legible.Config.Toml.Document
import Legible.Json.Lexer

/-!
# The formats of configuration files

Each of them is brought to the plain form of a layer first: a relaxed document by what a setting
takes from it, a TOML document by the one way to write a choice in it.
-/

namespace Legible

namespace Relaxed.Document

/-- What the setting of that name takes from a document: of a choice its first key, and of a number
the size it comes to. Nothing else is looked at. -/
def setting? (name : String) : Document → Option Json
  | .null => some .null
  | .bool b => some (.bool b)
  | .text s => s.map .string
  | .number word =>
    if name = "indentSize" ∨ name = "lineWidth" then (size? word).map fun n => .int n else none
  | .object ((key, _) :: _) => if name = "indentStyle" then key.map .string else none
  | _ => none

/-- The settings of a document, by name or in the order of declaration; what follows the last of
them in a list is not looked at. -/
def settings? : Document → Option Json
  | .object fields => do
    let fields ← fields.mapM fun (key, value) => do
      let name ← key
      return (name, ← value.setting? name)
    return .object fields
  | .array items => do
    let items ← (Layer.format.names.zip items).mapM fun (name, value) => value.setting? name
    return .array items
  | _ => none

end Relaxed.Document

namespace Toml

/-- What a setting takes from a value. A choice may be written as the only key of a table, with an
empty list or table as its content. -/
def Value.setting? : Value → Option Json
  | .text s => some (.string s)
  | .flag b => some (.bool b)
  | .integer n => some (.int n)
  | .table _ [(name, .emptyList)] | .table _ [(name, .table _ [])] =>
    some (.object [(name, .null)])
  | _ => none

def settings? (fields : Fields) : Option Json := do
  let fields ← fields.mapM fun (name, value) => do return (name, ← value.setting?)
  return .object fields

end Toml

namespace Config

inductive Format where
  | json
  | relaxedJson
  | toml
deriving DecidableEq

def Format.settings? : Format → String → Option Json
  | .json, s => Json.parse? s
  | .relaxedJson, s => (Relaxed.parse? s).bind (·.settings?)
  | .toml, s => (Toml.parse? s).bind Toml.settings?

def Format.readLayer? (format : Format) (s : String) : Option Layer :=
  match (format.settings? s).map Layer.decode with
  | some (.ok layer) => some layer
  | _ => none

end Config

end Legible
