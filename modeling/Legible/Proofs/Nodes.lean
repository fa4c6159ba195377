import Legible.Render

/-!
# The nodes of a tree and their own checks

Rendering looks at each node once by itself: at its literal, its operator, its parameters, but never
at more than the declared types of its parts. The checks are collected here apart from the text, and
the nodes of a tree are listed in the order in which they are looked at, a node before its parts.
-/

namespace Legible

namespace Expr

@[elab_as_elim]
theorem induction {motive : Expr → Prop}
    (parameter : ∀ p, motive (.parameter p))
    (constant : ∀ value type captured, motive (.constant value type captured))
    (property : ∀ receiver name type, motive receiver → motive (.property receiver name type))
    (index : ∀ receiver arguments type, motive receiver → (∀ a ∈ arguments, motive a) →
      motive (.index receiver arguments type))
    (binary : ∀ op left right type, motive left → motive right →
      motive (.binary op left right type))
    (conditional : ∀ test ifTrue ifFalse type, motive test → motive ifTrue → motive ifFalse →
      motive (.conditional test ifTrue ifFalse type))
    (call : ∀ receiver method declaring types arguments type, motive receiver →
      (∀ a ∈ arguments, motive a) → motive (.call receiver method declaring types arguments type))
    (staticCall : ∀ declaring method types arguments type, (∀ a ∈ arguments, motive a) →
      motive (.staticCall declaring method types arguments type))
    (lambda : ∀ parameters body type, motive body → motive (.lambda parameters body type))
    (e : Expr) : motive e := by
  refine @Expr.rec motive (fun es => ∀ a ∈ es, motive a) parameter constant property index binary
    conditional call staticCall lambda ?_ ?_ e
  · intro a ha
    cases ha
  · intro a es ha hes b hb
    rcases List.mem_cons.mp hb with rfl | hb
    · exact ha
    · exact hes b hb

def parts : Expr → List Expr
  | .parameter _ => []
  | .constant _ _ _ => []
  | .property receiver _ _ => [receiver]
  | .index receiver arguments _ => receiver :: arguments
  | .binary _ left right _ => [left, right]
  | .conditional test ifTrue ifFalse _ => [test, ifTrue, ifFalse]
  | .call receiver _ _ _ arguments _ => receiver :: arguments
  | .staticCall _ _ _ arguments _ => arguments
  | .lambda _ body _ => [body]

/-- Induction with all parts of a node at once. -/
theorem parts_induction {motive : Expr → Prop} (step : ∀ e, (∀ p ∈ e.parts, motive p) → motive e)
    (e : Expr) : motive e := by
  induction e using Expr.induction with
  | parameter p => exact step _ nofun
  | constant value type captured => exact step _ nofun
  | property receiver name type ih => exact step _ (by simpa [parts] using ih)
  | index receiver arguments type ihr iha => exact step _ (List.forall_mem_cons.mpr ⟨ihr, iha⟩)
  | binary op left right type ihl ihr => exact step _ (by simp [parts, ihl, ihr])
  | conditional test ifTrue ifFalse type iht iha ihb => exact step _ (by simp [parts, iht, iha, ihb])
  | call receiver method declaring types arguments type ihr iha =>
    exact step _ (List.forall_mem_cons.mpr ⟨ihr, iha⟩)
  | staticCall declaring method types arguments type iha => exact step _ iha
  | lambda parameters body type ih => exact step _ (by simpa [parts] using ih)

mutual

/-- All nodes of a tree: a node, then those of its parts. -/
def nodes : Expr → List Expr
  | .parameter p => [.parameter p]
  | .constant value type captured => [.constant value type captured]
  | .property receiver name type => .property receiver name type :: nodes receiver
  | .index receiver arguments type =>
    .index receiver arguments type :: (nodes receiver ++ nodesOfAll arguments)
  | .binary op left right type => .binary op left right type :: (nodes left ++ nodes right)
  | .conditional test ifTrue ifFalse type =>
    .conditional test ifTrue ifFalse type :: (nodes test ++ (nodes ifTrue ++ nodes ifFalse))
  | .call receiver method declaring types arguments type =>
    .call receiver method declaring types arguments type ::
      (nodes receiver ++ nodesOfAll arguments)
  | .staticCall declaring method types arguments type =>
    .staticCall declaring method types arguments type :: nodesOfAll arguments
  | .lambda parameters body type => .lambda parameters body type :: nodes body
termination_by structural e => e

def nodesOfAll : List Expr → List Expr
  | [] => []
  | e :: rest => nodes e ++ nodesOfAll rest
termination_by structural es => es

end

theorem nodesOfAll_eq (es : List Expr) : nodesOfAll es = es.flatMap nodes := by
  induction es with
  | nil => rfl
  | cons e rest ih => rw [nodesOfAll, ih, List.flatMap_cons]

theorem nodes_eq (e : Expr) : e.nodes = e :: e.parts.flatMap nodes := by
  cases e <;> simp [nodes, parts, nodesOfAll_eq]

theorem mem_nodes_self (e : Expr) : e ∈ e.nodes := by
  rw [nodes_eq]
  exact List.mem_cons_self

theorem nodes_subset_of_mem_parts {e part : Expr} (h : part ∈ e.parts) :
    ∀ n ∈ part.nodes, n ∈ e.nodes := by
  intro n hn
  rw [nodes_eq e]
  exact List.mem_cons_of_mem _ (List.mem_flatMap.mpr ⟨part, h, hn⟩)

end Expr

def Literal.Fits (value : Literal) (type : Ty) : Prop :=
  match value with
  | .null => type.isNullable = true
  | .bool _ => type.nonNullable = .bool
  | .integer n =>
    (type.nonNullable = .int ∧ -2147483648 ≤ n.toInt ∧ n.toInt ≤ 2147483647) ∨
      type.nonNullable = .long ∨ type.nonNullable = .decimal
  | .decimal _ => type.nonNullable = .decimal
  | .double _ => type.nonNullable = .double
  | .char _ => type.nonNullable = .char
  | .string _ => type.nonNullable = .string ∨ type.nonNullable = .object

namespace Style

/-- What is asked of a node by itself. -/
def Passes (style : Style) : Expr → Prop
  | .constant value type captured =>
    (captured.isSome = true ∧ style.showCaptured = false) ∨ value.Fits type
  | .index _ arguments _ => arguments ≠ []
  | .binary op left right type => op.check left.type right.type type = .ok ()
  | .conditional test _ _ _ => test.type = .bool
  | .lambda parameters _ type =>
    (parameters.map (·.name)).Nodup ∧
      ∀ expected result, type = .function expected result → expected.length = parameters.length
  | .parameter _ | .property _ _ _ | .call _ _ _ _ _ _ | .staticCall _ _ _ _ _ => True

/-- The same check with the fault it ends in. -/
def checkNode (style : Style) : Expr → Except Error Unit
  | .constant value type captured => (style.constantText value type captured).map fun _ => ()
  | .index _ arguments _ =>
    if arguments.isEmpty then
      .error (.unsupportedNode "IndexAccess" "an indexer needs at least one argument")
    else .ok ()
  | .binary op left right type => op.check left.type right.type type
  | .conditional test _ _ _ =>
    if test.type = .bool then .ok ()
    else .error (.typeMismatch "Conditional test" "bool" test.type.text)
  | .lambda parameters _ type => checkParameters parameters type
  | .parameter _ | .property _ _ _ | .call _ _ _ _ _ _ | .staticCall _ _ _ _ _ => .ok ()

def fault? (style : Style) (e : Expr) : Option Error :=
  match style.checkNode e with
  | .ok () => none
  | .error fault => some fault

def firstFault? (style : Style) (es : List Expr) : Option Error := es.findSome? style.fault?

theorem firstFault?_cons (style : Style) (e : Expr) (rest : List Expr) :
    style.firstFault? (e :: rest) = (style.fault? e).or (style.firstFault? rest) := by
  unfold firstFault?
  rw [List.findSome?_cons]
  cases style.fault? e <;> rfl

theorem firstFault?_append (style : Style) (as bs : List Expr) :
    style.firstFault? (as ++ bs) = (style.firstFault? as).or (style.firstFault? bs) :=
  List.findSome?_append

theorem firstFault?_eq_none_iff (style : Style) (es : List Expr) :
    style.firstFault? es = none ↔ ∀ e ∈ es, style.fault? e = none :=
  List.findSome?_eq_none_iff

end Style

end Legible
