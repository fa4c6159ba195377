/-!
# Faults of the library

What can go wrong outside evaluation, with the one wording of each fault. A fault of the tree that
is being rendered leaves other trees alone, so it may be recovered from.
-/

namespace Legible

inductive IoFault where
  | notFound
  | notDirectory
  | isDirectory
  | notUtf8
  /-- A name in a path, or the whole path, has too many bytes. -/
  | nameTooLong
  /-- A character in a path that no name can have. -/
  | nulInName
  | other (text : String)
deriving DecidableEq

def IoFault.message : IoFault → String
  | .notFound => "No such file or directory (os error 2)"
  | .notDirectory => "Not a directory (os error 20)"
  | .isDirectory => "Is a directory (os error 21)"
  | .notUtf8 => "stream did not contain valid UTF-8"
  | .nameTooLong => "File name too long (os error 36)"
  | .nulInName => "file name contained an unexpected NUL byte"
  | .other text => text

inductive Error where
  | config (message : String)
  | alreadyInitialized
  | unsupportedNode (kind message : String)
  | unsupportedOperation (operator operands : String)
  | typeMismatch (node expected found : String)
  | precedenceGap (operator : String)
  | invalidLiteral (kind text : String)
  | serialization (message : String)
  | io (path : String) (cause : IoFault)
  | internal (message : String)
deriving DecidableEq

namespace Error

def message : Error → String
  | .config text => "Configuration error: " ++ text
  | .alreadyInitialized => "Already initialized"
  | .unsupportedNode kind text => "Unsupported node '" ++ kind ++ "': " ++ text
  | .unsupportedOperation operator operands =>
    "Unsupported operation '" ++ operator ++ "' over " ++ operands
  | .typeMismatch node expected found =>
    "Type mismatch in " ++ node ++ ": expected " ++ expected ++ ", found " ++ found
  | .precedenceGap operator => "No precedence entry for operator '" ++ operator ++ "'"
  | .invalidLiteral kind text => "Invalid " ++ kind ++ " literal: '" ++ text ++ "'"
  | .serialization text => "Serialization error: " ++ text
  | .io path cause => "IO error for path '" ++ path ++ "': " ++ cause.message
  | .internal text => "Internal error: " ++ text

inductive Kind where
  | config
  | render
  | internal
  | serialization
  | io
deriving DecidableEq

def kind : Error → Kind
  | .config _ | .alreadyInitialized => .config
  | .unsupportedNode _ _ | .unsupportedOperation _ _ | .typeMismatch _ _ _
  | .invalidLiteral _ _ => .render
  | .precedenceGap _ | .internal _ => .internal
  | .serialization _ => .serialization
  | .io _ _ => .io

def isRecoverable (e : Error) : Bool := e.kind == .render || e.kind == .serialization

end Error

/-- Turns a fault that concerns one tree alone into the absence of a result. -/
def recover {α : Type} : Except Error α → Except Error (Option α)
  | .ok a => .ok (some a)
  | .error e => if e.isRecoverable then .ok none else .error e

end Legible
