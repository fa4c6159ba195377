import Legible.Config.Format
import Legible.FileTree

/-!
# Configuration files

A file is read by the format that its extension names, and refused if the style it describes cannot
be used. Without an explicit path the nearest file is taken: directories are searched from the
start upwards, and within one the names in a fixed order.
-/

namespace Legible.Config

/-- The names of configuration files, the preferred first. -/
def fileNames : List String :=
  [".readexrc.json", ".readexrc.jsonc", ".readexrc.toml", "readex.json"]

def fileName? (path : String) : Option String :=
  match ((path.splitOn "/").filter fun n => n != "" && n != ".").getLast? with
  | some n => if n = ".." then none else some n
  | none => none

/-- What follows the last dot of a file's name, where something precedes the dot. -/
def extension? (path : String) : Option String := do
  let name ← fileName? path
  let reversed := name.toList.reverse
  match reversed.dropWhile (· != '.') with
  | _ :: before =>
    if before.isEmpty then none
    else some (String.ofList (reversed.takeWhile (· != '.')).reverse)
  | [] => none

def format? (path : String) : Option Format :=
  match extension? path with
  | some "json" => some .json
  | some "jsonc" => some .relaxedJson
  | some "toml" => some .toml
  | _ => none

/-- Why no layer is loaded: it is refused, or the program ends over it. -/
inductive Fault where
  | refused (e : Error)
  | oversize (o : Oversize)

/-- The layer, if the style it makes can be used. -/
def usable (path : String) (layer : Layer) : Except Fault Layer := do
  let style ← layer.toStyle.mapError .oversize
  match style.validate with
  | .ok () => return layer
  | .error e => throw (.refused (.config ("Invalid config '" ++ path ++ "': " ++ e.message)))

/-- The layer that a text holds in the format of the path's extension. What is wrong with a text
that has none is told by the reader of the format, in the words of `explain`. -/
def parse (explain : Format → String → String) (path content : String) : Except Fault Layer :=
  let unreadable (message : String) : Except Fault Layer :=
    .error (.refused (.config ("Failed to load config from '" ++ path ++ "': " ++ message)))
  match format? path with
  | none => unreadable "unsupported file extension (expected .json, .jsonc or .toml)"
  | some format =>
    match format.readLayer? content with
    | none => unreadable (explain format content)
    | some layer => usable path layer

def loadEntry (explain : Format → String → String) (path : String) (e : Entry) :
    Except Fault Layer :=
  match FileTree.Entry.readText e with
  | .error cause => .error (.refused (.io path cause))
  | .ok content => parse explain path content

def loadFile (explain : Format → String → String) (tree : FileTree) (here : Location)
    (path : String) : Except Fault Layer :=
  match tree.resolve here path with
  | .error cause => .error (.refused (.io path cause))
  | .ok (_, e) => loadEntry explain path e

/-- The nearest configuration file at or above a location. -/
def search (tree : FileTree) (l : Location) : Option Location :=
  match fileNames.find? fun name => tree.isFile (name :: l) with
  | some name => some (name :: l)
  | none =>
    match l with
    | [] => none
    | _ :: parent => search tree parent

def discover (tree : FileTree) (here : Location) (start : String) :
    Except Error (Option Location) :=
  match tree.resolve here start with
  | .error cause => .error (.config ("Invalid path: " ++ cause.message))
  | .ok (l, _) => .ok (search tree l)

/-- The layer of the given file, or else of the nearest one. -/
def load (explain : Format → String → String) (tree : FileTree) (here : Location)
    (explicit start : Option String) : Except Fault (Option Layer) :=
  match explicit with
  | some path =>
    if tree.doesExist here path then (loadFile explain tree here path).map some
    else .error (.refused (.config ("Config file not found: " ++ path)))
  | none => do
    match ← (discover tree here (start.getD ".")).mapError .refused with
    | none => return none
    | some l => (loadFile explain tree here l.text).map some

end Legible.Config
