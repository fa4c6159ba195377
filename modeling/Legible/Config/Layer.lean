import Legible.Json.Decode
import Legible.Style

/-!
# Configuration layers

A layer sets some of the options of a style and leaves the others as they are. The unit of
indentation can be given as such, or as a kind and a number of characters; a number that no text can
hold ends the program where the layer is applied.
-/

namespace Legible

open Json (Decoded)

inductive IndentStyle where
  | spaces
  | tabs
deriving DecidableEq

def IndentStyle.text : IndentStyle → String
  | .spaces => "spaces"
  | .tabs => "tabs"

structure Layer where
  schema : Option String := none
  explicitTypeNames : Option Bool := none
  explicitTypeArguments : Option Bool := none
  showCaptured : Option Bool := none
  indentUnit : Option String := none
  indentStyle : Option IndentStyle := none
  indentSize : Option Nat := none
  lineWidth : Option Nat := none
deriving DecidableEq

def Text.maxBytes : Nat := 9223372036854775807

/-- The program ends over a text that would have too many bytes. -/
structure Oversize where
  size : Nat
deriving DecidableEq

def Oversize.message (_ : Oversize) : String := "capacity overflow"

namespace Layer

def spaces (size : Nat) : Except Oversize String :=
  if size ≤ Text.maxBytes then .ok (String.ofList (List.replicate size ' '))
  else .error ⟨size⟩

def unit? (layer : Layer) : Except Oversize (Option String) :=
  match layer.indentUnit with
  | some unit => .ok (some unit)
  | none =>
    match layer.indentStyle, layer.indentSize with
    | some .tabs, _ => .ok (some "\t")
    | _, some size => (spaces size).map some
    | some .spaces, none => .ok (some "  ")
    | none, none => .ok none

/-- The options that the layer sets over those of the style; its unit is given beside it. -/
def overlay (layer : Layer) (unit : Option String) (style : Style) : Style where
  explicitTypeNames := layer.explicitTypeNames.getD style.explicitTypeNames
  explicitTypeArguments := layer.explicitTypeArguments.getD style.explicitTypeArguments
  showCaptured := layer.showCaptured.getD style.showCaptured
  indentUnit := unit.getD style.indentUnit
  lineWidth := layer.lineWidth.or style.lineWidth

def apply (layer : Layer) (style : Style) : Except Oversize Style :=
  layer.unit?.map fun unit => layer.overlay unit style

def toStyle (layer : Layer) : Except Oversize Style := layer.apply {}

def ofStyle (style : Style) : Layer where
  explicitTypeNames := some style.explicitTypeNames
  explicitTypeArguments := some style.explicitTypeArguments
  showCaptured := some style.showCaptured
  indentUnit := some style.indentUnit
  lineWidth := style.lineWidth

def encodeOption (name : String) (value : Option Json) : List (String × Json) :=
  match value with
  | some v => [(name, v)]
  | none => []

/-- The fields that are set, in the order of declaration. -/
def fields (layer : Layer) : List (String × Json) :=
  encodeOption "$schema" (layer.schema.map .string) ++
  encodeOption "useExplicitTypeNames" (layer.explicitTypeNames.map .bool) ++
  encodeOption "useExplicitGenericParameters" (layer.explicitTypeArguments.map .bool) ++
  encodeOption "showCapturedValues" (layer.showCaptured.map .bool) ++
  encodeOption "indentUnit" (layer.indentUnit.map .string) ++
  encodeOption "indentStyle" (layer.indentStyle.map fun s => .string s.text) ++
  encodeOption "indentSize" (layer.indentSize.map fun n => .int n) ++
  encodeOption "lineWidth" (layer.lineWidth.map fun n => .int n)

def encode (layer : Layer) : Json := .object layer.fields

inductive Setting where
  | text (s : Option String)
  | flag (b : Option Bool)
  | style (s : Option IndentStyle)
  | size (n : Option Nat)

def decodeIndentStyle (j : Json) : Decoded IndentStyle := do
  let (name, content) ← j.asVariant
  if name = "spaces" then (Json.asUnit false content).map fun _ => .spaces
  else if name = "tabs" then (Json.asUnit false content).map fun _ => .tabs
  else throw (.unknownVariant name ["spaces", "tabs"])

def format : Json.RecordFormat Setting where
  name := "RenderConfiguration"
  closed := true
  fields :=
    [⟨"$schema", text, some (.text none), true⟩,
     ⟨"useExplicitTypeNames", flag, some (.flag none), false⟩,
     ⟨"useExplicitGenericParameters", flag, some (.flag none), false⟩,
     ⟨"showCapturedValues", flag, some (.flag none), false⟩,
     ⟨"indentUnit", text, some (.text none), false⟩,
     ⟨"indentStyle", fun j => (Json.asOptional decodeIndentStyle j).map .style,
       some (.style none), false⟩,
     ⟨"indentSize", size, some (.size none), false⟩,
     ⟨"lineWidth", size, some (.size none), false⟩]
where
  text (j : Json) : Decoded Setting := (Json.asOptional Json.asString j).map .text
  flag (j : Json) : Decoded Setting := (Json.asOptional Json.asBool j).map .flag
  size (j : Json) : Decoded Setting := (Json.asOptional Json.asSize j).map .size

def decode (j : Json) : Decoded Layer := do
  match ← format.read j with
  | [.text schema, .flag names, .flag arguments, .flag captured, .text unit, .style style,
      .size size, .size width] =>
    return ⟨schema, names, arguments, captured, unit, style, size, width⟩
  | _ => throw (.malformed "parts of another record")

end Layer

end Legible
