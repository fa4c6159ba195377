import Legible.Page
import Legible.Precedence
import Legible.Style

/-!
# Rendering a tree as source text

The tree is written from the top down. An operand is put in parentheses only where its strength
would not hold it together, a conditional is broken only where it would pass the line width, and
the first node whose types do not fit ends the rendering with its fault.
-/

namespace Legible

/-- The character as it stands inside the given delimiters. -/
def quotedChar (delimiter c : Char) : List Char :=
  if c = '\\' then ['\\', '\\']
  else if c = '\n' then ['\\', 'n']
  else if c = '\r' then ['\\', 'r']
  else if c = '\t' then ['\\', 't']
  else if c = Char.ofNat 0 then ['\\', '0']
  else if c = delimiter then ['\\', c]
  else [c]

/-- Characters between delimiters, escaped so that they stay on one line. -/
def quote (delimiter : Char) (cs : List Char) : List Char :=
  delimiter :: (cs.flatMap (quotedChar delimiter) ++ [delimiter])

namespace Literal

/-- The type that a literal of this sort asks for, as faults name it. -/
def wanted : Literal → String
  | .null => "nullable type"
  | .bool _ => "bool"
  | .integer _ => "int, long or decimal"
  | .decimal _ => "decimal"
  | .double _ => "double"
  | .char _ => "char"
  | .string _ => "string"

/-- Text with the suffix of its type, when types are explicit. -/
def suffixed (explicit : Bool) (text suffix : String) : String :=
  if explicit then text ++ suffix else text

def doubleText (explicit : Bool) (x : Float) : String :=
  if x.isNaN then "double.NaN"
  else if x.isInf then
    (if Number.hasSign x then "double.NegativeInfinity" else "double.PositiveInfinity")
  else
    let text := Number.display x
    if explicit then text ++ "d"
    else if text.toList.contains '.' then text
    else text ++ ".0"

/-- The source text of a literal of the given type, or the fault that it has none. -/
def sourceText (explicit : Bool) (value : Literal) (type : Ty) : Except Error String :=
  match value, type.nonNullable with
  | .null, _ => if type.isNullable then .ok "null" else mismatch
  | .bool b, .bool => .ok (if b then "true" else "false")
  | .integer n, .int =>
    if -2147483648 ≤ n.toInt ∧ n.toInt ≤ 2147483647 then .ok (toString n.toInt)
    else .error (.invalidLiteral "int" (toString n.toInt))
  | .integer n, .long => .ok (suffixed explicit (toString n.toInt) "L")
  | .integer n, .decimal => .ok (suffixed explicit (toString n.toInt) "m")
  | .decimal d, .decimal => .ok (suffixed explicit d.text "m")
  | .double x, .double => .ok (doubleText explicit x)
  | .char c, .char => .ok (String.ofList (quote '\'' [c]))
  | .string s, .string | .string s, .object => .ok (String.ofList (quote '"' s.toList))
  | _, _ => mismatch
where
  mismatch : Except Error String := .error (.typeMismatch "Constant" value.wanted type.text)

end Literal

def BinaryOp.check (op : BinaryOp) (left right result : Ty) : Except Error Unit :=
  if (op.isComparison || op.isLogical) && result != .bool then
    .error (.typeMismatch "BinaryOp" "bool" result.text)
  else
    match op with
    | .andAlso | .orElse => applies (left.isBool && right.isBool)
    | .lessThan | .greaterThan => applies (left.isOrdered && right.isOrdered)
    | .add =>
      applies ((left.isNumeric && right.isNumeric) || left == .string || right == .string)
    | .subtract | .multiply => applies (left.isNumeric && right.isNumeric)
    | .coalesce =>
      if left.isNullable then .ok ()
      else .error (.typeMismatch "Coalesce" "nullable left operand" left.text)
    | .equal | .notEqual => .ok ()
where
  applies (b : Bool) : Except Error Unit :=
    if b then .ok ()
    else .error (.unsupportedOperation op.symbol (left.text ++ " and " ++ right.text))

def duplicate? : List String → Option String
  | names => go [] names
where
  go (seen : List String) : List String → Option String
    | [] => none
    | n :: rest => if seen.contains n then some n else go (n :: seen) rest

def checkParameters (parameters : List Parameter) (type : Ty) : Except Error Unit :=
  match duplicate? (parameters.map (·.name)) with
  | some n => .error (.unsupportedNode "Lambda" ("duplicate parameter '" ++ n ++ "'"))
  | none =>
    match type with
    | .function expected _ =>
      if expected.length = parameters.length then .ok ()
      else
        .error (.typeMismatch "Lambda" (toString expected.length ++ " parameters")
          (toString parameters.length ++ " parameters"))
    | _ => .ok ()

namespace Style

/-- A constant's text: the name of a captured variable that is not shown, or else its literal. -/
def constantText (style : Style) (value : Literal) (type : Ty) (captured : Option String) :
    Except Error String :=
  match captured with
  | some name =>
    if style.showCaptured then value.sourceText style.explicitTypeNames type else .ok name
  | none => value.sourceText style.explicitTypeNames type

/-- The strength of a node as it is written: a variable name holds together by itself. -/
def strengthOf? (style : Style) (e : Expr) : Except Error Strength :=
  match e with
  | .constant _ _ (some _) => if style.showCaptured then e.strength? else .ok .primary
  | _ => e.strength?

end Style

namespace Page

/-- Writes something, in parentheses if asked for. -/
def grouped (parentheses : Bool) (body : Page → Except Error Page) (page : Page) :
    Except Error Page :=
  if parentheses then (body (page.token "(")).map fun page => page.token ")" else body page

/-- Writes the operand `e` of `parent`, in parentheses if its strength would not hold it
together. -/
def writeOperand (style : Style) (parent : Binding) (side : Side) (e : Expr)
    (body : Page → Except Error Page) (page : Page) : Except Error Page := do
  let strength ← style.strengthOf? e
  page.grouped (parent.groups strength side) body

def writeParameter (explicit : Bool) (page : Page) (p : Parameter) : Page :=
  if explicit then ((page.text p.type.text).token " ").text p.name else page.text p.name

def writeMoreParameters (explicit : Bool) (page : Page) : List Parameter → Page
  | [] => page
  | p :: rest => writeMoreParameters explicit (writeParameter explicit (page.token ", ") p) rest

/-- A lone parameter without its type stands bare. -/
def writeParameters (explicit : Bool) (page : Page) (parameters : List Parameter) : Page :=
  match explicit, parameters with
  | false, [p] => page.text p.name
  | _, [] => (page.token "(").token ")"
  | _, p :: rest =>
    (writeMoreParameters explicit (writeParameter explicit (page.token "(") p) rest).token ")"

def writeMoreTypes (page : Page) : List Ty → Page
  | [] => page
  | t :: rest => writeMoreTypes ((page.token ", ").text t.text) rest

def writeTypeArguments (page : Page) : List Ty → Page
  | [] => page
  | t :: rest => (writeMoreTypes ((page.token "<").text t.text) rest).token ">"

/-- `.method<types>`, with the types only if they are explicit. -/
def writeMethod (explicit : Bool) (page : Page) (method : String) (types : List Ty) : Page :=
  let page := (page.token ".").text method
  if explicit then page.writeTypeArguments types else page

end Page

mutual

/-- Writes a tree where nothing around it could take it apart. -/
def write : Style → Expr → Page → Except Error Page
  | _, .parameter p, page => .ok (page.text p.name)
  | style, .constant value type captured, page =>
    (style.constantText value type captured).map page.text
  | style, .property receiver name _, page => do
    let page ← page.writeOperand style .memberAccess .left receiver (write style receiver)
    return (page.token ".").text name
  | style, .index receiver arguments _, page =>
    if arguments.isEmpty then
      .error (.unsupportedNode "IndexAccess" "an indexer needs at least one argument")
    else do
      let page ← page.writeOperand style .memberAccess .left receiver (write style receiver)
      let page ← writeArguments style arguments (page.token "[")
      return page.token "]"
  | style, .binary op left right type, page => do
    op.check left.type right.type type
    let binding ← op.binding?
    let page ← page.writeOperand style binding .left left (write style left)
    let page := ((page.token " ").token op.symbol).token " "
    page.writeOperand style binding .right right (write style right)
  | style, .conditional test ifTrue ifFalse _, page =>
    if test.type = .bool then
      let writeTest (style : Style) (page : Page) :=
        page.writeOperand style .conditional .left test (write style test)
      let writeTrue (style : Style) (page : Page) :=
        page.writeOperand style .conditional .right ifTrue (write style ifTrue)
      let writeFalse (style : Style) (page : Page) :=
        page.writeOperand style .conditional .right ifFalse (write style ifFalse)
      let flat (style : Style) (page : Page) : Except Error Page := do
        let page ← writeTest style page
        let page ← writeTrue style (page.token " ? ")
        writeFalse style (page.token " : ")
      match style.lineWidth with
      | none => flat style page
      | some width => do
        let line ← flat style.flat { indentUnit := style.indentUnit }
        if width < page.column + line.column then
          let tested ← writeTest style page
          let page ← writeTrue style (tested.indent.newLine.token "? ")
          let page ← writeFalse style (page.newLine.token ": ")
          return page.restoreDepth tested
        else flat style page
    else .error (.typeMismatch "Conditional test" "bool" test.type.text)
  | style, .call receiver method _ types arguments _, page => do
    let page ← page.writeOperand style .memberAccess .left receiver (write style receiver)
    let page := page.writeMethod style.explicitTypeArguments method types
    let page ← writeArguments style arguments (page.token "(")
    return page.token ")"
  | style, .staticCall declaring method types arguments type, page =>
    if (Expr.staticCall declaring method types arguments type).isConcatenation then
      writeSum style arguments page
    else do
      let page := page.text declaring.text
      let page := page.writeMethod style.explicitTypeArguments method types
      let page ← writeArguments style arguments (page.token "(")
      return page.token ")"
  | style, .lambda parameters body type, page => do
    checkParameters parameters type
    let page := page.writeParameters style.explicitTypeNames parameters
    write style body (page.token " => ")
termination_by structural _ e => e

def writeArguments : Style → List Expr → Page → Except Error Page
  | _, [], page => .ok page
  | style, e :: rest, page => do
    let page ← write style e page
    writeMoreArguments style rest page
termination_by structural _ es => es

def writeMoreArguments : Style → List Expr → Page → Except Error Page
  | _, [], page => .ok page
  | style, e :: rest, page => do
    let page ← write style e (page.token ", ")
    writeMoreArguments style rest page
termination_by structural _ es => es

def writeSum : Style → List Expr → Page → Except Error Page
  | _, [], page => .ok page
  | style, e :: rest, page => do
    let page ← page.writeOperand style .concatenation .left e (write style e)
    writeMoreSum style rest page
termination_by structural _ es => es

def writeMoreSum : Style → List Expr → Page → Except Error Page
  | _, [], page => .ok page
  | style, e :: rest, page => do
    let page ← (page.token " + ").writeOperand style .concatenation .right e (write style e)
    writeMoreSum style rest page
termination_by structural _ es => es

end

def render (style : Style) (e : Expr) : Except Error String := do
  style.validate
  let page ← write style e { indentUnit := style.indentUnit }
  return page.finish

def renderAll (style : Style) (es : List Expr) : List (Except Error String) :=
  es.map (render style)

end Legible
