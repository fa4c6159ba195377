import Legible.Expr.Codec
import Legible.Json.Printer
import Legible.Render
import Legible.Sample

/-!
# Snapshots

A session keeps, for each kind of value, how such values are turned into text; other values are
shown as JSON. The converter of trees is registered once, and only before the first snapshot.
-/

namespace Legible

inductive Subject where
  | expr (e : Expr)
  | person (p : Person)
  | decimal (d : Decimal)
  /-- A short text, of a kind of its own. -/
  | label (s : String)
  | json (j : Json)

namespace Subject

inductive Kind where
  | expr
  | person
  | decimal
  | label
  | json
deriving DecidableEq

def kind : Subject → Kind
  | .expr _ => .expr
  | .person _ => .person
  | .decimal _ => .decimal
  | .label _ => .label
  | .json _ => .json

def encode : Subject → Json
  | .expr e => e.encode
  | .person p => p.encode
  | .decimal d => .string d.text
  | .label s => .string s
  | .json j => j

end Subject

abbrev Converter := Subject → Except Error String

structure Session where
  /-- Registration was tried. -/
  initialized : Bool := false
  snapshotTaken : Bool := false
  converters : List (Subject.Kind × Converter) := []

namespace Session

def exprConverter : Converter
  | .expr e => render {} e
  | _ => .error (.internal "converter for a tree received another value")

def isRegistered (s : Session) (k : Subject.Kind) : Bool := (s.converters.lookup k).isSome

def treatAsText (s : Session) (k : Subject.Kind) (c : Converter) : Session :=
  { s with converters := (k, c) :: s.converters.filter fun x => x.1 != k }

def convert (s : Session) (x : Subject) : Option (Except Error String) :=
  (s.converters.lookup x.kind).map fun c => c x

/-- Settings are closed by the first snapshot. -/
def ensureNoSnapshot (s : Session) : Except Error Unit :=
  if s.snapshotTaken then
    .error (.config "Settings must be configured before the first snapshot is taken")
  else .ok ()

def markInitialized (s : Session) : Session := { s with initialized := true }

def markSnapshot (s : Session) : Session := { s with snapshotTaken := true }

/-- Registers the converter of trees, if this is the first attempt and no snapshot was taken. -/
def register (s : Session) : Session × Except Error Unit :=
  if s.initialized then (s, .error .alreadyInitialized)
  else
    let s := s.markInitialized
    match s.ensureNoSnapshot with
    | .error e => (s, .error e)
    | .ok () => (s.treatAsText .expr exprConverter, .ok ())

def toSnapshot (s : Session) (x : Subject) : Session × Except Error String :=
  let s := s.markSnapshot
  (s, (s.convert x).getD (.ok x.encode.indented))

end Session

/-- Named values, in the order of their first mention. -/
structure Snapshot where
  fields : List (String × Json) := []

namespace Snapshot

/-- Adds a value, or replaces the one of that name. -/
def field (snapshot : Snapshot) (s : Session) (name : String) (x : Subject) :
    Except Error Snapshot :=
  match s.convert x with
  | some (.error e) => .error e
  | some (.ok text) => .ok ⟨Json.setField name (.string text) snapshot.fields⟩
  | none => .ok ⟨Json.setField name x.encode snapshot.fields⟩

def toJson (snapshot : Snapshot) (s : Session) : Session × String :=
  (s.markSnapshot, (Json.object snapshot.fields).indented)

end Snapshot

end Legible
