import Legible.Command.Paths

/-!
# The program

Reads the entries that the command may look at, runs it, and carries out what it asks for.
-/

namespace Legible.Command

/-- Adds what lies at a location and above it to the tree. -/
def fetch (tree : FileTree) : Location → IO FileTree
  | [] => return tree
  | name :: parent => do
    let l : Location := name :: parent
    let tree ← fetch tree parent
    match tree.entry? parent, tree.entry? l with
    | some .directory, none =>
      try
        return tree.put l (.file (← IO.FS.readBinFile l.text))
      catch
        | .noFileOrDirectory .. => return tree
        | _ => return tree.put l .directory
    | _, _ => return tree

/-- Writes the files at the given locations that differ between two trees. -/
def store (before after : FileTree) (ls : List Location) : IO Unit := do
  for l in ls do
    match before.entry? l, after.entry? l with
    | some (.file old), some (.file new) => if old != new then IO.FS.writeBinFile l.text new
    | none, some (.file new) => IO.FS.writeBinFile l.text new
    | _, _ => pure ()

def plainWording : Wording where
  notALayer _ _ := "no configuration"
  notATree _ := "no expression tree"
  help _ := "Usage: " ++ programName ++ " [OPTIONS] [COMMAND]\n"
  usage _ := errorLine "invalid arguments"
  crash message := message ++ "\n"

def execute (arguments : List String) : IO UInt32 := do
  let here : Location := ((← IO.currentDir).toString.splitOn "/").reverse.filter (· != "")
  let ls := locations here arguments
  let tree ← (here :: ls).foldlM fetch {}
  let outcome := run ⟨tree, here, plainWording⟩ arguments
  store tree outcome.tree ls
  IO.print outcome.stdout
  IO.eprint outcome.stderr
  return outcome.exit.toUInt32

end Legible.Command

def main (arguments : List String) : IO UInt32 := Legible.Command.execute arguments
