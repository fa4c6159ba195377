import Legible.Json.Basic

/-!
# The schema of configuration files
-/

namespace Legible.Config

def nullable (description type : String) (more : List (String × Json)) : Json :=
  .object ([("description", .string description),
    ("type", .array [.string type, .string "null"])] ++ more)

def unsigned : List (String × Json) := [("format", .string "uint"), ("minimum", .int 0)]

def indentStyleChoice (description value : String) : Json :=
  .object [("description", .string description), ("type", .string "string"),
    ("const", .string value)]

def properties : List (String × Json) :=
  [("$schema", nullable "JSON Schema reference for editor support" "string" []),
   ("useExplicitTypeNames",
     nullable "Prefix lambda parameters with their type names and suffix ambiguous literals"
       "boolean" []),
   ("useExplicitGenericParameters",
     nullable "Render generic method arguments explicitly instead of relying on inference"
       "boolean" []),
   ("showCapturedValues",
     nullable "Render captured variables by their value rather than their name" "boolean" []),
   ("indentUnit", nullable "Token repeated once per indentation level" "string" []),
   ("indentStyle",
     .object [("description", .string "Indentation style: 'spaces' or 'tabs'"),
       ("anyOf", .array [.object [("$ref", .string "#/$defs/IndentStyle")],
         .object [("type", .string "null")]])]),
   ("indentSize", nullable "Number of spaces per indentation level" "integer" unsigned),
   ("lineWidth", nullable "Break conditionals that would exceed this width" "integer" unsigned)]

def schema : Json :=
  .object
    [("$schema", .string "https://json-schema.org/draft/2020-12/schema"),
     ("title", .string "RenderConfiguration"),
     ("description", .string ("Rendering configuration\n\nEvery field is optional; " ++
       "unset fields keep the value they are applied to.")),
     ("type", .string "object"),
     ("properties", .object properties),
     ("additionalProperties", .bool false),
     ("$defs", .object
       [("IndentStyle", .object
         [("description", .string "Indent style for multi-line output"),
          ("oneOf", .array
            [indentStyleChoice "Use spaces for indentation" "spaces",
             indentStyleChoice "Use tabs for indentation" "tabs"])])])]

end Legible.Config
