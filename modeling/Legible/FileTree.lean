import Legible.Error

/-!
# Trees of files

A location is the list of names from an entry up to the root, the innermost first, so that the
parent of a location is its tail. Paths are resolved name by name, and every name but the last must
lead to a directory.
-/

namespace Legible

abbrev Location := List String

def Location.text (l : Location) : String := "/" ++ "/".intercalate l.reverse

inductive Entry where
  | file (content : ByteArray)
  | directory

/-- The entries below the root, which is always there. -/
structure FileTree where
  entries : List (Location × Entry) := []

namespace FileTree

def entry? (tree : FileTree) (l : Location) : Option Entry :=
  match l with
  | [] => some .directory
  | l => tree.entries.lookup l

def maxNameSize : Nat := 255

def maxPathSize : Nat := 4095

def isFile (tree : FileTree) (l : Location) : Bool :=
  match tree.entry? l with
  | some (.file _) => decide (l.text.utf8ByteSize ≤ maxPathSize)
  | _ => false

/-- Follows names from a location on; the last one need not exist. -/
def walk (tree : FileTree) (l : Location) : List String → Except IoFault Location
  | [] => .ok l
  | name :: rest =>
    match tree.entry? l with
    | none => .error .notFound
    | some (.file _) => .error .notDirectory
    | some .directory =>
      if name = "" ∨ name = "." then tree.walk l rest
      else if name = ".." then tree.walk l.tail rest
      else if maxNameSize < name.utf8ByteSize then .error .nameTooLong
      else tree.walk (name :: l) rest

def locate (tree : FileTree) (here : Location) (path : String) : Except IoFault Location :=
  match path.toList with
  | [] => .error .notFound
  | c :: cs =>
    if (c :: cs).contains (Char.ofNat 0) then .error .nulInName
    else if maxPathSize < path.utf8ByteSize then .error .nameTooLong
    else tree.walk (if c = '/' then [] else here) (path.splitOn "/")

def resolve (tree : FileTree) (here : Location) (path : String) :
    Except IoFault (Location × Entry) := do
  let l ← tree.locate here path
  match tree.entry? l with
  | some e => return (l, e)
  | none => throw .notFound

def Entry.readText : Entry → Except IoFault String
  | .directory => .error .isDirectory
  | .file content =>
    match String.fromUTF8? content with
    | some s => .ok s
    | none => .error .notUtf8

def readText (tree : FileTree) (here : Location) (path : String) : Except IoFault String := do
  let (_, e) ← tree.resolve here path
  Entry.readText e

def doesExist (tree : FileTree) (here : Location) (path : String) : Bool :=
  match tree.resolve here path with
  | .ok _ => true
  | .error _ => false

def put (tree : FileTree) (l : Location) (e : Entry) : FileTree :=
  ⟨(l, e) :: tree.entries.filter fun x => x.1 != l⟩

/-- Makes the directories down to a location that are not there yet. -/
def makeDirectories (tree : FileTree) : Location → FileTree
  | [] => tree
  | name :: parent =>
    let tree := tree.makeDirectories parent
    match tree.entry? (name :: parent) with
    | some _ => tree
    | none => tree.put (name :: parent) .directory

/-- Writes a file in an existing directory. -/
def writeText (tree : FileTree) (here : Location) (path : String) (s : String) :
    Except IoFault FileTree := do
  let l ← tree.locate here path
  match tree.entry? l, tree.entry? l.tail with
  | some .directory, _ => throw .isDirectory
  | _, some .directory => return tree.put l (.file s.toUTF8)
  | _, some (.file _) => throw .notDirectory
  | _, none => throw .notFound

end FileTree

end Legible
