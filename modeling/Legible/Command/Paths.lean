import Legible.Command.Run

/-!
# What a command looks at

The locations whose entries decide the outcome of a command: those its arguments name, and those
where a configuration file may lie.
-/

namespace Legible.Command

def Action.paths : Action → List String
  | .render files _ _ => files
  | .configInit format _ => [format.fileName]
  | .configValidate (some path) => [path]
  | .configValidate none | .configShow | .configSchema | .version _ | .help => []

/-- Where a path leads if all its names are directories. -/
def follow (here : Location) (path : String) : Location :=
  (path.splitOn "/").foldl
    (fun l name => if name = "" ∨ name = "." then l else if name = ".." then l.tail else name :: l)
    (if path.toList.head? = some '/' then [] else here)

def searched : Location → List Location
  | [] => Config.fileNames.map fun name => [name]
  | l@(_ :: parent) => (Config.fileNames.map fun name => name :: l) ++ searched parent

/-- The locations that the command with these arguments may look at. -/
def locations (here : Location) (arguments : List String) : List Location :=
  match readArguments arguments with
  | .invocation i => (i.config.toList ++ i.action.paths).map (follow here) ++ searched here
  | .programVersion | .help | .usageError => []

end Legible.Command
