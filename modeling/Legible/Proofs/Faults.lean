import Legible.Proofs.Draft
import Mathlib

/-!
# When rendering fails, and with which fault

A valid style renders a tree exactly if every node passes its own check, and otherwise ends with the
fault of the first node that does not. Nothing about the layout or the wording takes part in that.
-/

namespace Legible

namespace Literal

def fault (value : Literal) (type : Ty) : Error :=
  match value, type.nonNullable with
  | .integer n, .int => .invalidLiteral "int" (toString n.toInt)
  | _, _ => .typeMismatch "Constant" value.wanted type.text

theorem fault_kind (value : Literal) (type : Ty) : (value.fault type).kind = .render := by
  unfold fault
  split <;> rfl

theorem sourceText_of_fits {value : Literal} {type : Ty} (h : value.Fits type) (explicit : Bool) :
    ∃ text, value.sourceText explicit type = .ok text := by
  cases value with
  | null => exact ⟨_, if_pos h⟩
  | integer n =>
    rcases h with ⟨h, hn⟩ | h | h
    · exact ⟨toString n.toInt, by simp only [sourceText, h, if_pos hn]⟩
    · exact ⟨_, by simp only [sourceText, h]; rfl⟩
    · exact ⟨_, by simp only [sourceText, h]; rfl⟩
  | string s => rcases h with h | h <;> exact ⟨_, by simp only [sourceText, h]; rfl⟩
  | bool _ | decimal _ | double _ | char _ =>
    exact ⟨_, by simp only [sourceText, show _ = _ from h]; rfl⟩

theorem sourceText_of_not_fits {value : Literal} {type : Ty} (h : ¬ value.Fits type)
    (explicit : Bool) : value.sourceText explicit type = .error (value.fault type) := by
  unfold sourceText fault
  split <;> simp_all [Fits, sourceText.mismatch]

end Literal

theorem duplicate?_go_eq_none_iff (seen names : List String) :
    duplicate?.go seen names = none ↔ names.Nodup ∧ ∀ n ∈ names, n ∉ seen := by
  induction names generalizing seen with
  | nil => simp [duplicate?.go]
  | cons n rest ih =>
    rw [duplicate?.go, List.nodup_cons, List.forall_mem_cons]
    by_cases hn : n ∈ seen
    · simp [hn]
    · rw [if_neg (by simpa using hn), ih]
      constructor
      · rintro ⟨hrest, hseen⟩
        refine ⟨⟨fun h => hseen n h List.mem_cons_self, hrest⟩, hn, ?_⟩
        exact fun m hm h => hseen m hm (List.mem_cons_of_mem n h)
      · rintro ⟨⟨hnr, hrest⟩, -, hseen⟩
        refine ⟨hrest, fun m hm h => ?_⟩
        rcases List.mem_cons.mp h with rfl | h
        · exact hnr hm
        · exact hseen m hm h

theorem duplicate?_eq_none_iff (names : List String) : duplicate? names = none ↔ names.Nodup := by
  unfold duplicate?
  rw [duplicate?_go_eq_none_iff]
  simp

theorem checkParameters_eq_ok_iff (parameters : List Parameter) (type : Ty) :
    checkParameters parameters type = .ok () ↔
      (parameters.map (·.name)).Nodup ∧
        ∀ expected result, type = .function expected result →
          expected.length = parameters.length := by
  rw [← duplicate?_eq_none_iff]
  unfold checkParameters
  cases duplicate? (parameters.map (·.name)) with
  | some n => simp
  | none =>
    cases type with
    | function expected result =>
      by_cases h : expected.length = parameters.length <;> simp [h]
    | keyword _ | nullable _ | named _ _ => simp

theorem checkParameters_kind {parameters : List Parameter} {type : Ty} {fault : Error}
    (h : checkParameters parameters type = .error fault) : fault.kind = .render := by
  unfold checkParameters at h
  split at h
  · cases h
    rfl
  · split at h
    · split at h <;> cases h
      rfl
    · cases h

theorem BinaryOp.check_kind {op : BinaryOp} {left right result : Ty} {fault : Error}
    (h : op.check left right result = .error fault) : fault.kind = .render := by
  have applies_kind {b : Bool} (h : check.applies op left right b = .error fault) :
      fault.kind = .render := by
    unfold check.applies at h
    split at h <;> cases h
    rfl
  unfold check at h
  split at h
  · cases h
    rfl
  · split at h
    all_goals first
      | exact applies_kind h
      | cases h
      | (split at h <;> cases h; rfl)

namespace Style

theorem constantText_of_passes {style : Style} {value : Literal} {type : Ty}
    {captured : Option String} (h : style.Passes (.constant value type captured)) :
    ∃ text, style.constantText value type captured = .ok text := by
  cases captured with
  | none =>
    have hf : value.Fits type := h.resolve_left (by simp)
    exact Literal.sourceText_of_fits hf _
  | some name =>
    cases hs : style.showCaptured with
    | false => exact ⟨name, by simp [constantText, hs]⟩
    | true =>
      have hf : value.Fits type := h.resolve_left (by simp [hs])
      simpa [constantText, hs] using Literal.sourceText_of_fits hf style.explicitTypeNames

theorem constantText_of_not_passes {style : Style} {value : Literal} {type : Ty}
    {captured : Option String} (h : ¬ style.Passes (.constant value type captured)) :
    style.constantText value type captured = .error (value.fault type) := by
  obtain ⟨hc, hf⟩ := not_or.mp h
  have hf := Literal.sourceText_of_not_fits hf style.explicitTypeNames
  cases captured with
  | none => exact hf
  | some name =>
    have hs : style.showCaptured = true := by simpa using hc
    simpa [constantText, hs] using hf

/-- The fault of a node depends on the style only through the constants that it hides. -/
theorem fault?_congr {style other : Style} (h : other.showCaptured = style.showCaptured)
    (e : Expr) : other.fault? e = style.fault? e := by
  cases e with
  | constant value type captured =>
    have hp : other.Passes (.constant value type captured) ↔
        style.Passes (.constant value type captured) := by
      simp only [Passes, h]
    simp only [fault?, checkNode]
    by_cases hs : style.Passes (.constant value type captured)
    · obtain ⟨s, hs'⟩ := constantText_of_passes hs
      obtain ⟨t, ht⟩ := constantText_of_passes (hp.mpr hs)
      rw [hs', ht]
      rfl
    · rw [constantText_of_not_passes hs, constantText_of_not_passes fun ho => hs (hp.mp ho)]
  | parameter _ | property _ _ _ | index _ _ _ | binary _ _ _ _ | conditional _ _ _ _
  | call _ _ _ _ _ _ | staticCall _ _ _ _ _ | lambda _ _ _ => rfl

theorem checkNode_eq_ok_iff (style : Style) (e : Expr) :
    style.checkNode e = .ok () ↔ style.Passes e := by
  cases e with
  | constant value type captured =>
    simp only [checkNode]
    by_cases hp : style.Passes (.constant value type captured)
    · obtain ⟨s, hs⟩ := constantText_of_passes hp
      rw [hs]
      exact ⟨fun _ => hp, fun _ => rfl⟩
    · rw [constantText_of_not_passes hp]
      exact ⟨fun h => (by cases h), fun h => (hp h).elim⟩
  | index receiver arguments type => cases arguments <;> simp [checkNode, Passes]
  | binary op left right type => exact Iff.rfl
  | conditional test ifTrue ifFalse type =>
    by_cases h : test.type = .bool <;> simp [checkNode, Passes, h]
  | lambda parameters body type => exact checkParameters_eq_ok_iff parameters type
  | parameter _ | property _ _ _ | call _ _ _ _ _ _ | staticCall _ _ _ _ _ =>
    exact ⟨fun _ => trivial, fun _ => rfl⟩

theorem checkNode_kind {style : Style} {e : Expr} {fault : Error}
    (h : style.checkNode e = .error fault) : fault.kind = .render := by
  cases e with
  | constant value type captured =>
    simp only [checkNode] at h
    by_cases hp : style.Passes (.constant value type captured)
    · obtain ⟨s, hs⟩ := constantText_of_passes hp
      rw [hs] at h
      cases h
    · rw [constantText_of_not_passes hp] at h
      cases h
      exact Literal.fault_kind value type
  | index receiver arguments type =>
    simp only [checkNode] at h
    split at h <;> cases h
    rfl
  | binary op left right type => exact BinaryOp.check_kind h
  | conditional test ifTrue ifFalse type =>
    simp only [checkNode] at h
    split at h <;> cases h
    rfl
  | lambda parameters body type => exact checkParameters_kind h
  | parameter _ | property _ _ _ | call _ _ _ _ _ _ | staticCall _ _ _ _ _ => cases h

theorem fault?_eq_some_iff (style : Style) (e : Expr) (fault : Error) :
    style.fault? e = some fault ↔ style.checkNode e = .error fault := by
  unfold fault?
  cases style.checkNode e <;> simp

theorem fault?_eq_none_iff (style : Style) (e : Expr) :
    style.fault? e = none ↔ style.Passes e := by
  rw [← checkNode_eq_ok_iff]
  unfold fault?
  cases style.checkNode e <;> simp

theorem firstFault?_eq_none_iff_passes (style : Style) (es : List Expr) :
    style.firstFault? es = none ↔ ∀ e ∈ es, style.Passes e := by
  simp only [firstFault?_eq_none_iff, fault?_eq_none_iff]

theorem firstFault?_congr {style other : Style} (h : other.showCaptured = style.showCaptured)
    (es : List Expr) : other.firstFault? es = style.firstFault? es := by
  unfold firstFault?
  rw [show other.fault? = style.fault? from funext (fault?_congr h)]

/-- All nodes before the first failing one are passed over. -/
theorem firstFault?_of_first {style : Style} {before after : List Expr} {e : Expr} {fault : Error}
    (hbefore : ∀ n ∈ before, style.Passes n) (he : style.checkNode e = .error fault) :
    style.firstFault? (before ++ e :: after) = some fault := by
  rw [firstFault?_append, (style.firstFault?_eq_none_iff_passes before).mpr hbefore,
    firstFault?_cons, (style.fault?_eq_some_iff e fault).mpr he]
  rfl

theorem firstFault?_kind {style : Style} {es : List Expr} {fault : Error}
    (h : style.firstFault? es = some fault) : fault.kind = .render := by
  obtain ⟨e, -, he⟩ := List.exists_of_findSome?_eq_some h
  exact checkNode_kind ((style.fault?_eq_some_iff e fault).mp he)

theorem validate_eq_error {style : Style} {fault : Error} (h : style.validate = .error fault) :
    ∃ message, fault = .config message := by
  unfold validate at h
  split at h
  · cases h
    exact ⟨_, rfl⟩
  · split at h
    · cases h
      exact ⟨_, rfl⟩
    · split at h <;> cases h
      exact ⟨_, rfl⟩

end Style

/-- Rendering with a valid style, as the checks of the nodes and the draft on an empty page. -/
theorem render_eq {style : Style} (h : style.validate = .ok ()) (e : Expr) :
    render style e =
      orFault ((style.draft [] e).put style.indentUnit style.lineWidth
        { indentUnit := style.indentUnit }).finish (style.firstFault? e.nodes) := by
  unfold render
  rw [h, write_eq style e []]
  exact orFault_bind_pure _ _ _

theorem orFault_eq_error_iff {α : Type} (a : α) (fault : Option Error) (f : Error) :
    orFault a fault = .error f ↔ fault = some f := by
  cases fault <;> simp [orFault]

theorem exists_orFault_eq_ok_iff {α : Type} (a : α) (fault : Option Error) :
    (∃ b, orFault a fault = .ok b) ↔ fault = none := by
  cases fault <;> simp [orFault]

theorem render_of_invalid {style : Style} {fault : Error} (h : style.validate = .error fault)
    (e : Expr) : render style e = .error fault := by
  unfold render
  rw [h]
  rfl

theorem render_decided_by_node_checks (style : Style) (e : Expr) :
    (∀ fault, style.validate = .error fault →
      render style e = .error fault ∧ ∃ message, fault = .config message) ∧
    (style.validate = .ok () →
      ((∃ text, render style e = .ok text) ↔ ∀ n ∈ e.nodes, style.Passes n) ∧
      (∀ before n after, e.nodes = before ++ n :: after → (∀ m ∈ before, style.Passes m) →
        ¬ style.Passes n →
        ∃ fault, style.checkNode n = .error fault ∧ render style e = .error fault) ∧
      (∀ fault, render style e = .error fault →
        fault.kind = .render ∧ fault.isRecoverable = true) ∧
      (∀ other : Style, other.validate = .ok () → other.showCaptured = style.showCaptured →
        ∀ fault, render other e = .error fault ↔ render style e = .error fault)) ∧
    (∀ operator, render style e ≠ .error (.precedenceGap operator)) := by
  have hkind (hv : style.validate = .ok ()) (fault : Error) (h : render style e = .error fault) :
      fault.kind = .render := by
    rw [render_eq hv, orFault_eq_error_iff] at h
    exact Style.firstFault?_kind h
  refine ⟨fun fault hf => ⟨render_of_invalid hf e, Style.validate_eq_error hf⟩,
    fun hv => ⟨?_, ?_, ?_, ?_⟩, ?_⟩
  · rw [render_eq hv, exists_orFault_eq_ok_iff, Style.firstFault?_eq_none_iff_passes]
  · intro before n after hnodes hbefore hn
    cases hc : style.checkNode n with
    | ok _ => exact (hn ((style.checkNode_eq_ok_iff n).mp hc)).elim
    | error fault =>
      refine ⟨fault, rfl, ?_⟩
      rw [render_eq hv, orFault_eq_error_iff, hnodes]
      exact Style.firstFault?_of_first hbefore hc
  · intro fault h
    have := hkind hv fault h
    exact ⟨this, by simp [Error.isRecoverable, this]⟩
  · intro other ho hc fault
    rw [render_eq hv, render_eq ho, orFault_eq_error_iff, orFault_eq_error_iff,
      Style.firstFault?_congr hc]
  · intro operator h
    cases hv : style.validate with
    | ok _ => cases hkind hv _ h
    | error fault =>
      rw [render_of_invalid hv] at h
      obtain ⟨message, rfl⟩ := Style.validate_eq_error hv
      cases h

end Legible
