import Legible.Render

/-!
# Every operator is in the table

Strengths come from a table that may lack an operator, and rendering would end there. It lacks none,
so each look-up on the way has a result, and what is said about operands afterwards is said of these
results.
-/

namespace Legible

def resultOf {α : Type} : (r : Except Error α) → (∃ a, r = .ok a) → α
  | .ok a, _ => a
  | .error _, h => absurd h (by simp)

theorem eq_ok_resultOf {α : Type} (r : Except Error α) (h : ∃ a, r = .ok a) :
    r = .ok (resultOf r h) := by
  obtain ⟨a, rfl⟩ := h
  rfl

namespace BinaryOp

theorem exists_lookup_iff (table : List (BinaryOp × Binding)) (op : BinaryOp) :
    (∃ b, lookup table op = .ok b) ↔ op ∈ table.map (·.1) := by
  unfold lookup
  cases hfind : table.find? fun row => row.1 = op with
  | some row =>
    have hrow : row.1 = op := by simpa using List.find?_some hfind
    exact iff_of_true ⟨row.2, rfl⟩ (List.mem_map.mpr ⟨row, List.mem_of_find?_eq_some hfind, hrow⟩)
  | none =>
    refine iff_of_false (by simp) ?_
    rintro hop
    obtain ⟨row, hmem, hrow⟩ := List.mem_map.mp hop
    exact List.find?_eq_none.mp hfind row hmem (decide_eq_true hrow)

theorem mem_bindings (op : BinaryOp) : op ∈ bindings.map (·.1) := by
  cases op <;> decide

theorem exists_binding (op : BinaryOp) : ∃ b, op.binding? = .ok b :=
  (exists_lookup_iff bindings op).mpr op.mem_bindings

def binding (op : BinaryOp) : Binding := resultOf op.binding? op.exists_binding

theorem binding?_eq (op : BinaryOp) : op.binding? = .ok op.binding :=
  eq_ok_resultOf op.binding? op.exists_binding

end BinaryOp

namespace Expr

theorem exists_strength (e : Expr) : ∃ s, e.strength? = .ok s := by
  cases e with
  | binary op left right type =>
    rw [strength?, op.binding?_eq]
    exact ⟨_, rfl⟩
  | parameter _ | constant _ _ _ | property _ _ _ | index _ _ _ | conditional _ _ _ _
  | call _ _ _ _ _ _ | staticCall _ _ _ _ _ | lambda _ _ _ => exact ⟨_, rfl⟩

def strength (e : Expr) : Strength := resultOf e.strength? e.exists_strength

theorem strength?_eq (e : Expr) : e.strength? = .ok e.strength :=
  eq_ok_resultOf e.strength? e.exists_strength

theorem strength_binary (op : BinaryOp) (left right : Expr) (type : Ty) :
    (Expr.binary op left right type).strength = op.binding.strength := by
  have h := strength?_eq (.binary op left right type)
  rw [strength?, op.binding?_eq] at h
  exact (Except.ok.inj h).symm

end Expr

namespace Style

theorem exists_strengthOf (style : Style) (e : Expr) : ∃ s, style.strengthOf? e = .ok s := by
  unfold strengthOf?
  split
  · split
    · exact Expr.exists_strength _
    · exact ⟨_, rfl⟩
  · exact e.exists_strength

def strengthOf (style : Style) (e : Expr) : Strength :=
  resultOf (style.strengthOf? e) (style.exists_strengthOf e)

theorem strengthOf?_eq (style : Style) (e : Expr) :
    style.strengthOf? e = .ok (style.strengthOf e) :=
  eq_ok_resultOf (style.strengthOf? e) (style.exists_strengthOf e)

/-- Only what is captured and hidden is written otherwise. -/
theorem strengthOf_congr {style other : Style} (h : other.showCaptured = style.showCaptured)
    (e : Expr) : other.strengthOf e = style.strengthOf e := by
  have hstrength : other.strengthOf? e = style.strengthOf? e := by
    unfold strengthOf?
    rw [h]
  rw [strengthOf?_eq, strengthOf?_eq] at hstrength
  exact Except.ok.inj hstrength

variable (style : Style)

theorem strengthOf_binary (op : BinaryOp) (left right : Expr) (type : Ty) :
    style.strengthOf (.binary op left right type) = op.binding.strength :=
  Expr.strength_binary op left right type

theorem strengthOf_staticCall (declaring : Ty) (method : String) (types : List Ty)
    (arguments : List Expr) (type : Ty) :
    style.strengthOf (.staticCall declaring method types arguments type) =
      if (Expr.staticCall declaring method types arguments type).isConcatenation then
        Binding.concatenation.strength
      else .primary := rfl

theorem strengthOf_constant (value : Literal) (type : Ty) :
    style.strengthOf (.constant value type none) =
      if value.isNegative then .unary else .primary := rfl

theorem strengthOf_captured (value : Literal) (type : Ty) (name : String) :
    style.strengthOf (.constant value type (some name)) =
      if style.showCaptured then style.strengthOf (.constant value type none) else .primary := by
  have h := style.strengthOf?_eq (.constant value type (some name))
  rw [strengthOf?] at h
  cases hshow : style.showCaptured with
  | true =>
    rw [hshow] at h
    exact (Except.ok.inj h).symm
  | false =>
    rw [hshow] at h
    exact (Except.ok.inj h).symm

def groups (parent : Binding) (side : Side) (e : Expr) : Bool :=
  parent.groups (style.strengthOf e) side

end Style

theorem Page.writeOperand_eq (style : Style) (parent : Binding) (side : Side) (e : Expr)
    (body : Page → Except Error Page) (page : Page) :
    page.writeOperand style parent side e body =
      page.grouped (style.groups parent side e) body := by
  rw [writeOperand, style.strengthOf?_eq]
  rfl

end Legible
