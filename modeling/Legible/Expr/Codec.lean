import Legible.Expr.Basic
import Legible.Json.Decode
import Legible.Type.Parser

/-!
# The serialized form of trees

A node is an object that names its kind and then its parts; types and decimals are written as their
text. Reading looks for the kind first and then visits the parts in the order they are written. A
node may also be a list: its kind, and then its parts in the order of declaration.
-/

namespace Legible

open Json (Decoded)

namespace Literal

def names : List String := ["null", "bool", "integer", "decimal", "double", "char", "string"]

def encode : Literal → Json
  | .null => .string "null"
  | .bool b => .object [("bool", .bool b)]
  | .integer n => .object [("integer", .int n.toInt)]
  | .decimal d => .object [("decimal", .string d.text)]
  | .double x => .object [("double", .float x)]
  | .char c => .object [("char", .string c.toString)]
  | .string s => .object [("string", .string s)]

def decodeDecimal (j : Json) : Decoded DecimalText := do
  let s ← j.asString
  (DecimalText.parse s).mapError fun e => .malformed e.message

/-- Reads a literal; inside a tree an empty object also serves as the content of `null`. -/
def decode (inTree : Bool) (j : Json) : Decoded Literal := do
  let (name, content) ← j.asVariant
  if name = "null" then (Json.asUnit inTree content).map fun _ => .null
  else if name = "bool" then (← Json.asContent content).asBool.map .bool
  else if name = "integer" then (← Json.asContent content).asInt64.map .integer
  else if name = "decimal" then (decodeDecimal (← Json.asContent content)).map .decimal
  else if name = "double" then (← Json.asContent content).asFloat.map .double
  else if name = "char" then (← Json.asContent content).asChar.map .char
  else if name = "string" then (← Json.asContent content).asString.map .string
  else throw (.unknownVariant name names)

end Literal

namespace Ty

def encode (t : Ty) : Json := .string t.text

def decode (j : Json) : Decoded Ty := do
  let s ← j.asString
  (Ty.parse s).mapError fun e => .malformed e.message

def decodeList : List Json → Decoded (List Ty)
  | [] => .ok []
  | j :: rest => do
    let t ← decode j
    let ts ← decodeList rest
    return t :: ts

end Ty

def BinaryOp.decode (j : Json) : Decoded BinaryOp := do
  let (name, content) ← j.asVariant
  match BinaryOp.ofTag? name with
  | none => throw (.unknownVariant name (BinaryOp.all.map (·.tag)))
  | some op => (Json.asUnit true content).map fun _ => op

namespace Parameter

def encode (p : Parameter) : Json := .object [("name", .string p.name), ("type", p.type.encode)]

end Parameter

namespace Expr

mutual

def encode : Expr → Json
  | .parameter p =>
    .object [("kind", .string "parameter"), ("name", .string p.name), ("type", p.type.encode)]
  | .constant value type captured =>
    .object ([("kind", .string "constant"), ("value", value.encode), ("type", type.encode)] ++
      match captured with
      | some name => [("capturedFrom", .string name)]
      | none => [])
  | .property receiver name type =>
    .object [("kind", .string "property"), ("receiver", encode receiver), ("name", .string name),
      ("type", type.encode)]
  | .index receiver arguments type =>
    .object [("kind", .string "index"), ("receiver", encode receiver),
      ("arguments", .array (encodeList arguments)), ("type", type.encode)]
  | .binary op left right type =>
    .object [("kind", .string "binary"), ("op", .string op.tag), ("left", encode left),
      ("right", encode right), ("type", type.encode)]
  | .conditional test ifTrue ifFalse type =>
    .object [("kind", .string "conditional"), ("test", encode test), ("ifTrue", encode ifTrue),
      ("ifFalse", encode ifFalse), ("type", type.encode)]
  | .call receiver method declaring types arguments type =>
    .object ([("kind", .string "call"), ("receiver", encode receiver), ("method", .string method),
      ("declaringType", declaring.encode)] ++ encodeTypes types ++
      [("arguments", .array (encodeList arguments)), ("type", type.encode)])
  | .staticCall declaring method types arguments type =>
    .object ([("kind", .string "call"), ("method", .string method),
      ("declaringType", declaring.encode)] ++ encodeTypes types ++
      [("arguments", .array (encodeList arguments)), ("type", type.encode)])
  | .lambda parameters body type =>
    .object [("kind", .string "lambda"),
      ("parameters", .array (parameters.map Parameter.encode)), ("body", encode body),
      ("type", type.encode)]
termination_by structural e => e

def encodeList : List Expr → List Json
  | [] => []
  | e :: rest => encode e :: encodeList rest
termination_by structural es => es

/-- Type arguments are left out when there are none. -/
def encodeTypes (types : List Ty) : List (String × Json) :=
  match types with
  | [] => []
  | types => [("typeArguments", .array (types.map Ty.encode))]

end

inductive Shape where
  | text
  | optionalText
  | type
  | types
  | literal
  | operator
  | node
  | optionalNode
  | nodes
  | parameters
deriving DecidableEq

inductive Part where
  | text (s : String)
  | optionalText (s : Option String)
  | type (t : Ty)
  | types (ts : List Ty)
  | literal (value : Literal)
  | operator (op : BinaryOp)
  | node (e : Expr)
  | optionalNode (e : Option Expr)
  | nodes (es : List Expr)
  | parameters (ps : List Parameter)

/-- A named part; `absent` stands in for one that is left out, if it may be. -/
structure PartFormat where
  name : String
  shape : Shape
  absent : Option Part

def required (name : String) (shape : Shape) : PartFormat := ⟨name, shape, none⟩

namespace Kind

/-- The name of the record of parts, in faults about their number. -/
def recordName : Kind → String
  | .parameter => "ParameterExpr"
  | .constant => "ConstantExpr"
  | .property => "PropertyExpr"
  | .index => "IndexExpr"
  | .binary => "BinaryExpr"
  | .conditional => "ConditionalExpr"
  | .call => "MethodCallExpr"
  | .lambda => "LambdaExpr"

def parts : Kind → List PartFormat
  | .parameter => [required "name" .text, required "type" .type]
  | .constant =>
    [required "value" .literal, required "type" .type,
     ⟨"capturedFrom", .optionalText, some (.optionalText none)⟩]
  | .property => [required "receiver" .node, required "name" .text, required "type" .type]
  | .index => [required "receiver" .node, required "arguments" .nodes, required "type" .type]
  | .binary =>
    [required "op" .operator, required "left" .node, required "right" .node,
     required "type" .type]
  | .conditional =>
    [required "test" .node, required "ifTrue" .node, required "ifFalse" .node,
     required "type" .type]
  | .call =>
    [⟨"receiver", .optionalNode, some (.optionalNode none)⟩, required "method" .text,
     required "declaringType" .type, ⟨"typeArguments", .types, some (.types [])⟩,
     ⟨"arguments", .nodes, some (.nodes [])⟩, required "type" .type]
  | .lambda => [required "parameters" .parameters, required "body" .node, required "type" .type]

/-- The kind that a value names; below the top a position in the list of kinds serves, too. -/
def decode (nested : Bool) : Json → Decoded Kind
  | .string s =>
    match ofTag? s with
    | some k => .ok k
    | none => .error (.unknownVariant s (all.map (·.tag)))
  | .int n =>
    if nested && decide (0 ≤ n) then
      match all[n.toNat]? with
      | some k => .ok k
      | none =>
        .error (.invalidValue (Json.found (.int n)) "variant index 0 <= i < 8")
    else Json.refuse (.int n) "variant identifier"
  | j => j.refuse "variant identifier"

def find (nested : Bool) (fields : List (String × Json)) : Decoded Kind :=
  match fields.filter fun f => f.1 == "kind" with
  | [] => .error (.missingField "kind")
  | (_, value) :: rest => do
    let k ← decode nested value
    if rest.isEmpty then return k else throw (.duplicateField "kind")

end Kind

def Kind.part? (kind : Kind) (name : String) : Option PartFormat :=
  kind.parts.find? fun p => p.name == name

/-- Every part in the order of declaration, given those that were written. -/
def completeParts (seen : List (String × Part)) : List PartFormat → Decoded (List Part)
  | [] => .ok []
  | p :: rest =>
    match seen.lookup p.name, p.absent with
    | some v, _ | none, some v => (completeParts seen rest).map (v :: ·)
    | none, none => .error (.missingField p.name)

def absentParts (kind : Kind) (index : Nat) : List PartFormat → Decoded (List Part)
  | [] => .ok []
  | p :: rest =>
    match p.absent with
    | some v => (absentParts kind (index + 1) rest).map (v :: ·)
    | none =>
      .error (.invalidLength index
        ("struct " ++ kind.recordName ++ " with " ++ toString kind.parts.length ++ " elements"))

def excess (used length : Nat) : DecodeError :=
  .invalidLength length
    (if used = 1 then "1 element in sequence" else toString used ++ " elements in sequence")

def ofParts : Kind → List Part → Option Expr
  | .parameter, [.text name, .type t] => some (.parameter ⟨name, t⟩)
  | .constant, [.literal v, .type t, .optionalText c] => some (.constant v t c)
  | .property, [.node r, .text name, .type t] => some (.property r name t)
  | .index, [.node r, .nodes es, .type t] => some (.index r es t)
  | .binary, [.operator op, .node l, .node r, .type t] => some (.binary op l r t)
  | .conditional, [.node c, .node a, .node b, .type t] => some (.conditional c a b t)
  | .call, [.optionalNode (some r), .text m, .type d, .types ts, .nodes es, .type t] =>
    some (.call r m d ts es t)
  | .call, [.optionalNode none, .text m, .type d, .types ts, .nodes es, .type t] =>
    some (.staticCall d m ts es t)
  | .lambda, [.parameters ps, .node b, .type t] => some (.lambda ps b t)
  | _, _ => none

def assemble (kind : Kind) (parts : List Part) : Decoded Expr :=
  match ofParts kind parts with
  | some e => .ok e
  | none => .error (.malformed "parts of another node")

def decodeFlat (shape : Shape) (j : Json) : Decoded Part :=
  match shape with
  | .text => j.asString.map .text
  | .optionalText => (Json.asOptional Json.asString j).map .optionalText
  | .type => (Ty.decode j).map .type
  | .literal => (Literal.decode true j).map .literal
  | .operator => (BinaryOp.decode j).map .operator
  | .types =>
    match j with
    | .array items => (Ty.decodeList items).map .types
    | j => j.refuse "a sequence"
  | .parameters =>
    match j with
    | .array items => (decodeParameters items).map .parameters
    | j => j.refuse "a sequence"
  | .node | .optionalNode | .nodes => .error (.malformed "a node among flat parts")
where
  decodeParameter (j : Json) : Decoded Parameter := do
    let parts ←
      match j with
      | .object fields => do
        let seen ← visitFlat [] fields
        completeParts seen Kind.parameter.parts
      | .array [] => absentParts .parameter 0 Kind.parameter.parts
      | .array [name] => do
        let name ← name.asString
        let rest ← absentParts .parameter 1 [required "type" .type]
        pure (.text name :: rest)
      | .array (name :: type :: rest) => do
        let name ← name.asString
        let type ← Ty.decode type
        if rest.isEmpty then pure [.text name, .type type]
        else throw (excess 2 (rest.length + 2))
      | j => j.refuse "struct ParameterExpr"
    match parts with
    | [.text name, .type type] => return ⟨name, type⟩
    | _ => throw (.malformed "parts of another node")
  visitFlat (seen : List (String × Part)) : List (String × Json) → Decoded (List (String × Part))
    | [] => .ok seen
    | (key, value) :: rest =>
      if key = "name" ∨ key = "type" then
        if (seen.lookup key).isSome then .error (.duplicateField key)
        else if key = "name" then do
          let s ← value.asString
          visitFlat ((key, .text s) :: seen) rest
        else do
          let t ← Ty.decode value
          visitFlat ((key, .type t) :: seen) rest
      else visitFlat seen rest
  decodeParameters : List Json → Decoded (List Parameter)
    | [] => .ok []
    | j :: rest => do
      let p ← decodeParameter j
      let ps ← decodeParameters rest
      return p :: ps

/-- Reads a part, given what its value holds as a node and as a list of nodes. -/
def decodePart (shape : Shape) (j : Json) (node : Unit → Decoded Expr)
    (nodes : Unit → Decoded (List Expr)) : Decoded Part :=
  match shape with
  | .node => (node ()).map .node
  | .optionalNode =>
    match j with
    | .null => .ok (.optionalNode none)
    | _ => (node ()).map fun e => .optionalNode (some e)
  | .nodes => (nodes ()).map .nodes
  | shape => decodeFlat shape j

mutual

/-- Reads a node; `nested` tells whether it stands inside another. -/
def decodeNode (nested : Bool) : Json → Decoded Expr
  | .object fields => do
    let kind ← Kind.find nested fields
    let seen ← visitParts kind [] fields
    let parts ← completeParts seen kind.parts
    assemble kind parts
  | .array items => do
    match items with
    | [] => throw (.missingField "kind")
    | tag :: rest =>
      let kind ← Kind.decode nested tag
      let parts ← listParts kind rest.length 0 kind.parts rest
      assemble kind parts
  | .null => Json.refuse .null "internally tagged enum Expr"
  | .bool b => Json.refuse (.bool b) "internally tagged enum Expr"
  | .int n => Json.refuse (.int n) "internally tagged enum Expr"
  | .float x => Json.refuse (.float x) "internally tagged enum Expr"
  | .string s => Json.refuse (.string s) "internally tagged enum Expr"
termination_by structural j => j

def decodeNodes : Json → Decoded (List Expr)
  | .array items => decodeItems items
  | .object fields => Json.refuse (.object fields) "a sequence"
  | .null => Json.refuse .null "a sequence"
  | .bool b => Json.refuse (.bool b) "a sequence"
  | .int n => Json.refuse (.int n) "a sequence"
  | .float x => Json.refuse (.float x) "a sequence"
  | .string s => Json.refuse (.string s) "a sequence"
termination_by structural j => j

/-- Reads the parts of a node in the order they are written. -/
def visitParts (kind : Kind) (seen : List (String × Part)) :
    List (String × Json) → Decoded (List (String × Part))
  | [] => .ok seen
  | (key, value) :: rest =>
    match kind.part? key with
    | none => visitParts kind seen rest
    | some p =>
      if (seen.lookup key).isSome then .error (.duplicateField key)
      else
        match decodePart p.shape value (fun _ => decodeNode true value)
            (fun _ => decodeNodes value) with
        | .ok v => visitParts kind ((key, v) :: seen) rest
        | .error e => .error e
termination_by structural fields => fields

def listParts (kind : Kind) (length index : Nat) :
    List PartFormat → List Json → Decoded (List Part)
  | formats, [] => absentParts kind index formats
  | [], _ :: _ => .error (excess index length)
  | p :: formats, j :: rest =>
    match decodePart p.shape j (fun _ => decodeNode true j) (fun _ => decodeNodes j) with
    | .ok v => (listParts kind length (index + 1) formats rest).map (v :: ·)
    | .error e => .error e
termination_by structural _ items => items

def decodeItems : List Json → Decoded (List Expr)
  | [] => .ok []
  | j :: rest => do
    let e ← decodeNode true j
    let es ← decodeItems rest
    return e :: es
termination_by structural items => items

end

def decode (j : Json) : Decoded Expr := decodeNode false j

end Expr

end Legible
