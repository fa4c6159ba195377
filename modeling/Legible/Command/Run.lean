import Legible.Command.Arguments
import Legible.Config.File
import Legible.Config.Schema
import Legible.Expr.Codec
import Legible.Render

/-!
# The commands

A command reads a tree of files, may write one file, and produces text for its two output streams
and an exit code. Trees that cannot be rendered are reported beside the others; anything else that
goes wrong ends the command before it writes.
-/

namespace Legible.Command

def programName : String := "readex"

def versionText : String := "0.1.0"

/-- The wording that others choose: the readers of files and of arguments, and the runtime. -/
structure Wording where
  /-- Why a text holds no layer in the format. -/
  notALayer : Config.Format → String → String
  /-- Why a text holds no tree. -/
  notATree : String → String
  /-- What the arguments ask to be told about the program. -/
  help : List String → String
  /-- Why the arguments cannot be used. -/
  usage : List String → String
  /-- How the end of the program over a fault of that message is reported. -/
  crash : String → String

structure World where
  tree : FileTree
  here : Location
  wording : Wording

structure Outcome where
  exit : Nat
  stdout : String
  stderr : String
  tree : FileTree

/-- The message of a fault with that of its cause behind it. -/
def faultText : Error → String
  | .io path cause => (Error.io path cause).message ++ ": " ++ cause.message
  | e => e.message

inductive Fault where
  | library (e : Error)
  | oversize (o : Oversize)
  | unreadable (path : String) (cause : IoFault)
  | notATree (path cause : String)
  | notRendered (path : String) (e : Error)
  | someFailed (failed total : Nat)
  | fileExists (name : String)
  | unwritable (path : String) (cause : IoFault)
  | noConfiguration

def Fault.message : Fault → String
  | .library e => faultText e
  | .oversize o => o.message
  | .unreadable path cause => "Failed to read " ++ path ++ ": " ++ cause.message
  | .notATree path cause => "Failed to parse expression tree in " ++ path ++ ": " ++ cause
  | .notRendered path e => "Failed to render " ++ path ++ ": " ++ faultText e
  | .someFailed failed total =>
    toString failed ++ " of " ++ toString total ++ " trees failed to render"
  | .fileExists name =>
    "Configuration file '" ++ name ++ "' already exists. Use --force to overwrite."
  | .unwritable path cause => "Failed to write " ++ path ++ ": " ++ cause.message
  | .noConfiguration =>
    "No configuration file found (" ++ ", ".intercalate Config.fileNames ++ ")"

def Fault.ofConfig : Config.Fault → Fault
  | .refused e => .library e
  | .oversize o => .oversize o

def loadConfig (w : World) (config : Option String) : Except Fault (Option Layer) :=
  (Config.load w.wording.notALayer w.tree w.here config none).mapError .ofConfig

/-- The style with the overrides over it, which must be usable. -/
def overridden (overrides : Layer) (style : Style) : Except Fault Style := do
  let style ← (overrides.apply style).mapError .oversize
  style.validate.mapError .library
  return style

def resolveStyle (w : World) (config : Option String) (overrides : Layer) :
    Except Fault Style := do
  match ← loadConfig w config with
  | some layer =>
    let style ← (layer.apply {}).mapError .oversize
    overridden overrides style
  | none => overridden overrides {}

def readTree (w : World) (path : String) : Except Fault Expr :=
  match w.tree.readText w.here path with
  | .error cause => .error (.unreadable path cause)
  | .ok content =>
    match (Json.parse? content).map Expr.decode with
    | some (.ok e) => .ok e
    | _ => .error (.notATree path (w.wording.notATree content))

def readTrees (w : World) : List String → Except Fault (List Expr)
  | [] => .ok []
  | path :: rest => do
    let e ← readTree w path
    let es ← readTrees w rest
    return e :: es

/-- What became of one file: its text, or the message of its fault. -/
structure TreeOutcome where
  file : String
  rendered : Option String
  error : Option String

/-- A fault that does not concern the tree alone is handed on. -/
def treeOutcome (file : String) (result : Except Error String) : Except Fault TreeOutcome :=
  match recover result with
  | .error e => .error (.notRendered file e)
  | .ok rendered =>
    let error :=
      match result with
      | .ok _ => none
      | .error e => some e.message
    .ok ⟨file, rendered, error⟩

def treeOutcomes : List (String × Except Error String) → Except Fault (List TreeOutcome)
  | [] => .ok []
  | (file, result) :: rest => do
    let o ← treeOutcome file result
    let os ← treeOutcomes rest
    return o :: os

def TreeOutcome.encode (o : TreeOutcome) : Json :=
  .object ([("file", .string o.file)] ++
    Layer.encodeOption "rendered" (o.rendered.map .string) ++
    Layer.encodeOption "error" (o.error.map .string))

def errorLine (message : String) : String := "error: " ++ message ++ "\n"

def TreeOutcome.streams (header : Bool) (o : TreeOutcome) : String × String :=
  match o.rendered, o.error with
  | some text, _ => ((if header then "// " ++ o.file ++ "\n" else "") ++ text ++ "\n", "")
  | none, some message => ("", errorLine (o.file ++ ": " ++ message))
  | none, none => ("", "")

def showOutcomes (format : OutputFormat) (os : List TreeOutcome) : String × String :=
  match format with
  | .json => ((Json.array (os.map TreeOutcome.encode)).indented ++ "\n", "")
  | .text =>
    let streams := os.map (TreeOutcome.streams (decide (1 < os.length)))
    (String.join (streams.map (·.1)), String.join (streams.map (·.2)))

def renderFiles (w : World) (config : Option String) (files : List String) (overrides : Layer) :
    Except Fault (List TreeOutcome) := do
  let style ← resolveStyle w config overrides
  let trees ← readTrees w files
  treeOutcomes (files.zip (renderAll style trees))

/-- Ends with a fault. One that the program is not written for is reported by the runtime. -/
def fail (w : World) (stdout stderr : String) (fault : Fault) : Outcome :=
  match fault with
  | .oversize o => ⟨101, stdout, stderr ++ w.wording.crash o.message, w.tree⟩
  | fault => ⟨1, stdout, stderr ++ errorLine fault.message, w.tree⟩

def succeed (w : World) (stdout : String) : Outcome := ⟨0, stdout, "", w.tree⟩

def report (w : World) (result : Except Fault String) : Outcome :=
  match result with
  | .ok stdout => succeed w stdout
  | .error fault => fail w "" "" fault

def runRender (w : World) (config : Option String) (files : List String) (format : OutputFormat)
    (overrides : Layer) : Outcome :=
  match renderFiles w config files overrides with
  | .error fault => fail w "" "" fault
  | .ok os =>
    let (stdout, stderr) := showOutcomes format os
    let failed := (os.filter fun o => o.error.isSome).length
    if failed = 0 then ⟨0, stdout, stderr, w.tree⟩
    else fail w stdout stderr (.someFailed failed os.length)

def FileFormat.fileName : FileFormat → String
  | .json => ".readexrc.json"
  | .toml => ".readexrc.toml"

def FileFormat.defaults (format : FileFormat) : String :=
  let layer := Layer.ofStyle {}
  match format with
  | .json => layer.encode.indented
  | .toml => Toml.write layer.fields

def runConfigInit (w : World) (format : FileFormat) (force : Bool) : Outcome :=
  let name := format.fileName
  if w.tree.doesExist w.here name && !force then fail w "" "" (.fileExists name)
  else
    match w.tree.writeText w.here name format.defaults with
    | .error cause => fail w "" "" (.unwritable name cause)
    | .ok tree => ⟨0, "Created configuration file: " ++ name ++ "\n", "", tree⟩

def validateConfig (w : World) (path : Option String) : Except Fault String := do
  let layer ←
    match path with
    | some path => (Config.loadFile w.wording.notALayer w.tree w.here path).mapError .ofConfig
    | none =>
      match ← loadConfig w none with
      | some layer => pure layer
      | none => throw .noConfiguration
  let style ← layer.toStyle.mapError .oversize
  return "Configuration is valid\n" ++
    "   Explicit type names: " ++ toString style.explicitTypeNames ++ "\n" ++
    "   Explicit generic parameters: " ++ toString style.explicitTypeArguments ++ "\n" ++
    "   Captured values shown: " ++ toString style.showCaptured ++ "\n"

def showConfig (w : World) (config : Option String) : Except Fault String := do
  let style ← resolveStyle w config {}
  return (Layer.ofStyle style).encode.indented ++ "\n"

def detailedVersion : String :=
  programName ++ " " ++ versionText ++
    "\nBuild information:\n  Target: x86_64\n  OS: linux\n"

def runAction (w : World) (arguments : List String) (config : Option String) : Action → Outcome
  | .render files format overrides => runRender w config files format overrides
  | .configInit format force => runConfigInit w format force
  | .configValidate path => report w (validateConfig w path)
  | .configShow => report w (showConfig w config)
  | .configSchema => succeed w (Config.schema.indented ++ "\n")
  | .version detailed => succeed w (if detailed then detailedVersion else versionText ++ "\n")
  | .help => succeed w (w.wording.help arguments)

def run (w : World) (arguments : List String) : Outcome :=
  match readArguments arguments with
  | .invocation i => runAction w arguments i.config i.action
  | .programVersion => succeed w (programName ++ " " ++ versionText ++ "\n")
  | .help => succeed w (w.wording.help arguments)
  | .usageError => ⟨2, "", w.wording.usage arguments, w.tree⟩

end Legible.Command
