import Legible.Page

/-!
# Scripts of page operations

A script is a list of page operations with nested indented blocks. A block whose body stops early
is left as if it had ended there; running a script notes where the page stands after every
completed step.
-/

namespace Legible.Page

inductive Step where
  | token (t : String)
  | text (s : String)
  | writeLine (s : String)
  | newLine
  | indented (steps : List Step)
  /-- Stops the innermost block, or the whole script. -/
  | fail

structure Position where
  depth : Nat
  column : Nat
  line : Nat

def position (page : Page) : Position := ⟨page.depth, page.column, page.line⟩

/-- The page, the positions after the completed steps, and whether the script was stopped. -/
structure Trace where
  page : Page
  positions : List Position
  stopped : Bool

def Trace.completed (page : Page) (inner : List Position) : Trace :=
  ⟨page, inner ++ [page.position], false⟩

mutual

def runStep (page : Page) : Step → Except TokenFault Trace
  | .token t => (checkToken t).map fun _ => .completed (page.token t) []
  | .text s => .ok (.completed (page.text s) [])
  | .writeLine s => .ok (.completed (page.writeLine s) [])
  | .newLine => .ok (.completed page.newLine [])
  | .indented steps =>
    (runScript page.indent steps).map fun body =>
      .completed (body.page.restoreDepth page) body.positions
  | .fail => .ok ⟨page, [], true⟩
termination_by structural step => step

def runScript (page : Page) : List Step → Except TokenFault Trace
  | [] => .ok ⟨page, [], false⟩
  | step :: rest => do
    let first ← runStep page step
    if first.stopped then return first
    let more ← runScript first.page rest
    return ⟨more.page, first.positions ++ more.positions, more.stopped⟩
termination_by structural steps => steps

end

end Legible.Page
