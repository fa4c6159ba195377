import Legible.Proofs.Faults

/-!
# Captured constants

A constant may stand for a variable of the surroundings. A style that hides such variables writes
the name and nothing that depends on the value; a style that shows them writes the value and nothing
that depends on the name. Both are one argument: whatever is done to the captured constants of a
tree, as long as the style words and groups each of them as before, the draft of the whole tree and
its faults stay the same.
-/

namespace Legible

namespace Expr

mutual

/-- The tree with every captured constant given another value and another mark. -/
def recapture (f : String → Literal → Literal × Option String) : Expr → Expr
  | .parameter p => .parameter p
  | .constant value type none => .constant value type none
  | .constant value type (some name) => .constant (f name value).1 type (f name value).2
  | .property receiver name type => .property (recapture f receiver) name type
  | .index receiver arguments type =>
    .index (recapture f receiver) (recaptureAll f arguments) type
  | .binary op left right type => .binary op (recapture f left) (recapture f right) type
  | .conditional test ifTrue ifFalse type =>
    .conditional (recapture f test) (recapture f ifTrue) (recapture f ifFalse) type
  | .call receiver method declaring types arguments type =>
    .call (recapture f receiver) method declaring types (recaptureAll f arguments) type
  | .staticCall declaring method types arguments type =>
    .staticCall declaring method types (recaptureAll f arguments) type
  | .lambda parameters body type => .lambda parameters (recapture f body) type
termination_by structural e => e

def recaptureAll (f : String → Literal → Literal × Option String) : List Expr → List Expr
  | [] => []
  | e :: rest => recapture f e :: recaptureAll f rest
termination_by structural es => es

end

/-- The tree with the values of its captured constants blanked out. Two trees that become equal in
this way differ in such values only. -/
def withoutCapturedValues (e : Expr) : Expr := e.recapture fun name _ => (.null, some name)

def withoutCaptureMarks (e : Expr) : Expr := e.recapture fun _ value => (value, none)

variable (f : String → Literal → Literal × Option String)

theorem recaptureAll_eq (es : List Expr) : recaptureAll f es = es.map (recapture f) := by
  induction es with
  | nil => rfl
  | cons e rest ih => rw [recaptureAll, ih, List.map_cons]

theorem type_recapture (e : Expr) : (e.recapture f).type = e.type := by
  cases e with
  | constant value type captured => cases captured <;> rfl
  | _ => rfl

theorem parts_recapture (e : Expr) : (e.recapture f).parts = e.parts.map (recapture f) := by
  cases e with
  | constant value type captured => cases captured <;> rfl
  | index _ _ _ | call _ _ _ _ _ _ | staticCall _ _ _ _ _ =>
    simp only [recapture, parts, recaptureAll_eq, List.map_cons]
  | _ => rfl

theorem nodes_recapture (e : Expr) : (e.recapture f).nodes = e.nodes.map (recapture f) := by
  induction e using parts_induction with
  | step e ih =>
    rw [nodes_eq, nodes_eq e, parts_recapture, List.map_cons, List.flatMap_map, List.map_flatMap]
    congr 1
    exact List.flatMap_congr ih

theorem isConcatenation_recapture (e : Expr) :
    (e.recapture f).isConcatenation = e.isConcatenation := by
  cases e with
  | constant value type captured => cases captured <;> rfl
  | staticCall declaring method types arguments type =>
    simp only [recapture, isConcatenation, recaptureAll_eq, List.length_map, ← List.map_take,
      List.any_map, Function.comp_def, type_recapture]
  | _ => rfl

end Expr

namespace Style

/-- The style words and groups the captured constants as it did before the change. -/
structure Overlooks (style : Style) (f : String → Literal → Literal × Option String) : Prop where
  word : ∀ value type name,
    style.constantText (f name value).1 type (f name value).2 =
      style.constantText value type (some name)
  strength : ∀ value type name,
    style.strengthOf (.constant (f name value).1 type (f name value).2) =
      style.strengthOf (.constant value type (some name))

variable {style : Style} {f : String → Literal → Literal × Option String}

theorem overlooks_values (h : style.showCaptured = false) :
    style.Overlooks fun name _ => (.null, some name) where
  word value type name := by simp [constantText, h]
  strength value type name := by simp [strengthOf_captured, h]

theorem overlooks_marks (h : style.showCaptured = true) :
    style.Overlooks fun _ value => (value, none) where
  word value type name := by simp [constantText, h]
  strength value type name := by simp [strengthOf_captured, h]

theorem Overlooks.strengthOf_recapture (h : style.Overlooks f) (e : Expr) :
    style.strengthOf (e.recapture f) = style.strengthOf e := by
  cases e with
  | constant value type captured =>
    cases captured with
    | none => rfl
    | some name => exact h.strength value type name
  | staticCall declaring method types arguments type =>
    have hc := Expr.isConcatenation_recapture f (.staticCall declaring method types arguments type)
    simp only [Expr.recapture] at hc
    simp only [Expr.recapture, strengthOf_staticCall, hc]
  | _ => rfl

theorem Overlooks.groups_recapture (h : style.Overlooks f) (parent : Binding) (side : Side)
    (e : Expr) : style.groups parent side (e.recapture f) = style.groups parent side e := by
  rw [groups, groups, h.strengthOf_recapture]

theorem drafts_recapture {es : List Expr}
    (h : ∀ e ∈ es, ∀ path, style.draft path (e.recapture f) = style.draft path e)
    (path : Expr.Path) (i : Nat) :
    style.drafts path i (Expr.recaptureAll f es) = style.drafts path i es := by
  induction es generalizing i with
  | nil => rfl
  | cons e rest ih =>
    obtain ⟨he, hrest⟩ := List.forall_mem_cons.mp h
    rw [Expr.recaptureAll, drafts, drafts, he, ih hrest]

theorem Overlooks.operands_recapture (ho : style.Overlooks f) {es : List Expr}
    (h : ∀ e ∈ es, ∀ path, style.draft path (e.recapture f) = style.draft path e)
    (path : Expr.Path) (i : Nat) :
    style.operands path i (Expr.recaptureAll f es) = style.operands path i es := by
  induction es generalizing i with
  | nil => rfl
  | cons e rest ih =>
    obtain ⟨he, hrest⟩ := List.forall_mem_cons.mp h
    rw [Expr.recaptureAll, operands, operands, ho.groups_recapture, he, ih hrest]

/-- Nothing of what is written, grouped or broken depends on what the style overlooks. -/
theorem Overlooks.draft_recapture (h : style.Overlooks f) (e : Expr) (path : Expr.Path) :
    style.draft path (e.recapture f) = style.draft path e := by
  induction e using Expr.induction generalizing path with
  | parameter p => rfl
  | constant value type captured =>
    cases captured with
    | none => rfl
    | some name => simp only [Expr.recapture, draft, constantWord, h.word]
  | property receiver name type ih => simp only [Expr.recapture, draft, h.groups_recapture, ih]
  | index receiver arguments type ihr iha =>
    simp only [Expr.recapture, draft, h.groups_recapture, ihr, drafts_recapture iha]
  | binary op left right type ihl ihr =>
    simp only [Expr.recapture, draft, h.groups_recapture, ihl, ihr]
  | conditional test ifTrue ifFalse type iht iha ihb =>
    simp only [Expr.recapture, draft, h.groups_recapture, iht, iha, ihb]
  | call receiver method declaring types arguments type ihr iha =>
    simp only [Expr.recapture, draft, h.groups_recapture, ihr, drafts_recapture iha]
  | staticCall declaring method types arguments type iha =>
    have hc := Expr.isConcatenation_recapture f (.staticCall declaring method types arguments type)
    simp only [Expr.recapture] at hc
    simp only [Expr.recapture, draft, hc, drafts_recapture iha, h.operands_recapture iha]
  | lambda parameters body type ih => simp only [Expr.recapture, draft, ih]

theorem Overlooks.fault?_recapture (h : style.Overlooks f) (e : Expr) :
    style.fault? (e.recapture f) = style.fault? e := by
  cases e with
  | constant value type captured =>
    cases captured with
    | none => rfl
    | some name => simp only [Expr.recapture, fault?, checkNode, h.word]
  | index receiver arguments type =>
    simp only [Expr.recapture, fault?, checkNode, Expr.recaptureAll_eq, List.isEmpty_map]
  | binary op left right type =>
    simp only [Expr.recapture, fault?, checkNode, Expr.type_recapture]
  | conditional test ifTrue ifFalse type =>
    simp only [Expr.recapture, fault?, checkNode, Expr.type_recapture]
  | _ => rfl

theorem Overlooks.firstFault?_recapture (h : style.Overlooks f) (e : Expr) :
    style.firstFault? (e.recapture f).nodes = style.firstFault? e.nodes := by
  rw [Expr.nodes_recapture, firstFault?, List.findSome?_map, firstFault?]
  congr 1
  exact funext h.fault?_recapture

theorem Overlooks.render_recapture (h : style.Overlooks f) (e : Expr) :
    render style (e.recapture f) = render style e := by
  cases hv : style.validate with
  | error fault => rw [render_of_invalid hv, render_of_invalid hv]
  | ok _ => rw [render_eq hv, render_eq hv, h.draft_recapture, h.firstFault?_recapture]

end Style

theorem captured_constants_transparent (style : Style) :
    (style.showCaptured = false → ∀ a b : Expr,
      a.withoutCapturedValues = b.withoutCapturedValues → render style a = render style b) ∧
    (style.showCaptured = true → ∀ e : Expr,
      render style e = render style e.withoutCaptureMarks) := by
  constructor
  · intro hidden a b hab
    have overlooks := Style.overlooks_values hidden
    calc
      render style a = render style a.withoutCapturedValues := (overlooks.render_recapture a).symm
      _ = render style b.withoutCapturedValues := by rw [hab]
      _ = render style b := overlooks.render_recapture b
  · intro shown e
    exact ((Style.overlooks_marks shown).render_recapture e).symm

/-- The receiver of a member, which is put in parentheses only where its minus sign is seen. -/
theorem captured_constants_transparent_receiver :
    let sign (value : Literal) (captured : Option String) : Expr :=
      .property (.constant value .int captured) "Sign" .int
    let hidden : Style := { showCaptured := false, lineWidth := some 1 }
    render hidden (sign (.integer (-5)) (some "n")) =
        render hidden (sign (.string "5") (some "n")) ∧
      render hidden (sign (.string "5") (some "n")) = .ok "n.Sign" ∧
      render {} (sign (.integer (-5)) (some "n")) = render {} (sign (.integer (-5)) none) ∧
      render {} (sign (.integer (-5)) none) = .ok "(-5).Sign" := by
  intro sign hidden
  refine ⟨(captured_constants_transparent hidden).1 rfl _ _ rfl, by cbv, ?_, by cbv⟩
  exact (captured_constants_transparent {}).2 rfl (sign (.integer (-5)) (some "n"))

end Legible
