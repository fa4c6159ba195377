import Legible.Proofs.ExactEvaluation
import Legible.Render

/-!
# Operators on values of the declared types

Rendering checks an operator against the declared types of its operands, evaluation looks at the
values. Where the check is passed and the operands have values of their types, the operator is
refused in two cases only: a logical operator whose left operand is null, and an order between a
character and a number that is not whole.
-/

namespace Legible

/-! ## The check of an operator -/

def BinaryOp.Applies (op : BinaryOp) (left right : Ty) : Prop :=
  match op with
  | .andAlso | .orElse => left.isBool = true ∧ right.isBool = true
  | .lessThan | .greaterThan => left.isOrdered = true ∧ right.isOrdered = true
  | .add => (left.isNumeric = true ∧ right.isNumeric = true) ∨ left = .string ∨ right = .string
  | .subtract | .multiply => left.isNumeric = true ∧ right.isNumeric = true
  | .coalesce => left.isNullable = true
  | .equal | .notEqual => True

theorem BinaryOp.applies_of_check {op : BinaryOp} {left right result : Ty}
    (h : op.check left right result = .ok ()) : op.Applies left right := by
  have applies_ok {b : Bool} (h : check.applies op left right b = .ok ()) : b = true := by
    unfold check.applies at h
    split at h
    · assumption
    · cases h
  unfold check at h
  split at h
  · cases h
  · cases op with
    | andAlso | orElse | lessThan | greaterThan | subtract | multiply =>
      simpa [Applies] using applies_ok h
    | add => simpa [Applies, or_assoc] using applies_ok h
    | coalesce =>
      dsimp only at h
      split at h
      · assumption
      · cases h
    | equal | notEqual => trivial

/-! ## Values of a type -/

/-- The values of a type. Null is one where the type is nullable or `string`, and any value is an
`object`. -/
inductive Value.HasType : Value → Ty → Prop where
  | bool (b : Bool) : HasType (.bool b) .bool
  | char (c : Char) : HasType (.char c) .char
  | int (n : Int64) : HasType (.int n) .int
  | long (n : Int64) : HasType (.int n) .long
  | double (x : Float) : HasType (.double x) .double
  | decimal (d : Decimal) : HasType (.decimal d) .decimal
  | string (s : String) : HasType (.string s) .string
  | noString : HasType .null .string
  | object (v : Value) : HasType v .object
  | none (t : Ty) : HasType .null (.nullable t)
  | some {v : Value} {t : Ty} (h : HasType v t) : HasType v (.nullable t)

namespace Value

def isNumber : Value → Bool
  | .int _ | .decimal _ | .double _ => true
  | _ => false

def charAgainstFraction : Value → Value → Bool
  | .char _, .decimal _ | .char _, .double _ | .decimal _, .char _ | .double _, .char _ => true
  | _, _ => false

namespace HasType

variable {v : Value} {t : Ty}

theorem nonNullable (h : v.HasType t) : v = .null ∨ v.HasType t.nonNullable := by
  cases h with
  | none t => exact .inl rfl
  | some h => exact .inr h
  | bool | char | int | long | double | decimal | string | noString | object =>
    exact .inr (by constructor)

theorem null_or_number (h : v.HasType t) (ht : t.isNumeric = true) :
    v = .null ∨ v.isNumber = true := by
  rcases h.nonNullable with h | h
  · exact .inl h
  · unfold Ty.isNumeric at ht
    generalize t.nonNullable = u at h ht
    cases h with
    | int | long | double | decimal => exact .inr rfl
    | bool | char | string | noString | object | none | some => cases ht

theorem null_or_char (h : v.HasType t) (ht : t.nonNullable = .char) :
    v = .null ∨ ∃ c, v = .char c := by
  rcases h.nonNullable with h | h
  · exact .inl h
  · rw [ht] at h
    cases h
    exact .inr ⟨_, rfl⟩

theorem null_or_bool (h : v.HasType t) (ht : t.isBool = true) :
    v = .null ∨ ∃ b, v = .bool b := by
  rcases h.nonNullable with h | h
  · exact .inl h
  · rw [show t.nonNullable = .bool from eq_of_beq ht] at h
    cases h
    exact .inr ⟨_, rfl⟩

theorem null_or_string (h : v.HasType .string) : v = .null ∨ ∃ s, v = .string s := by
  cases h with
  | string s => exact .inr ⟨s, rfl⟩
  | noString => exact .inl rfl

theorem null_or_number_or_char (h : v.HasType t) (ht : t.isOrdered = true) :
    v = .null ∨ v.isNumber = true ∨ ∃ c, v = .char c := by
  rcases Bool.or_eq_true_iff.mp ht with ht | ht
  · rcases h.null_or_number ht with h | h
    · exact .inl h
    · exact .inr (.inl h)
  · rcases h.null_or_char (eq_of_beq ht) with h | h
    · exact .inl h
    · exact .inr (.inr h)

end HasType

end Value

/-! ## Results -/

/-- A result, or none for lack of room. -/
def Answers {α : Type} (r : Except EvalError α) : Prop :=
  ∀ fault, r = .error fault → fault.isLackOfRoom = true

theorem Answers.ok {α : Type} (a : α) : Answers (.ok a : Except EvalError α) := nofun

theorem Exact.Shows.answers {x : Exact} {r : Except EvalError Value} (h : x.Shows r) :
    Answers r := by
  rintro fault rfl
  exact h

namespace Value

variable {v w : Value}

theorem isNull_of_isNumber (h : v.isNumber = true) : v.isNull = false := by
  cases v <;> cases h <;> rfl

theorem exists_promote (hv : v.isNumber = true) (hw : w.isNumber = true) :
    ∃ numbers, promote v w = some numbers := by
  cases v <;> cases hv <;> cases w <;> cases hw <;> exact ⟨_, rfl⟩

theorem arithmetic_of_null (op : Arithmetic) (h : v = .null ∨ w = .null) :
    arithmetic op v w = .ok .null := by
  unfold arithmetic
  apply if_pos
  rcases h with rfl | rfl
  · rfl
  · exact Bool.or_true _

theorem arithmetic_answers (op : Arithmetic) (hv : v = .null ∨ v.isNumber = true)
    (hw : w = .null ∨ w.isNumber = true) : Answers (arithmetic op v w) := by
  rcases hv with hv | hv
  · rw [arithmetic_of_null op (.inl hv)]
    exact .ok _
  · rcases hw with hw | hw
    · rw [arithmetic_of_null op (.inr hw)]
      exact .ok _
    · obtain ⟨numbers, hn⟩ := exists_promote hv hw
      rw [arithmetic, isNull_of_isNumber hv, isNull_of_isNumber hw, hn]
      cases numbers with
      | int a b => exact (op.onInt_shows a b).answers
      | decimal a b => exact (op.onDecimal_shows a b).answers
      | double a b => exact .ok _

/-- A null where a string was declared makes the sum null, and a string makes it a text. -/
theorem strict_add_answers {t u : Ty} (hv : v.HasType t) (hw : w.HasType u)
    (h : BinaryOp.add.Applies t u) : Answers (strict .add v w) := by
  rw [strict]
  split
  · exact .ok _
  · rename_i hs
    rcases h with ⟨ht, hu⟩ | rfl | rfl
    · exact arithmetic_answers .add (hv.null_or_number ht) (hw.null_or_number hu)
    · rcases hv.null_or_string with rfl | ⟨s, rfl⟩
      · rw [arithmetic_of_null .add (.inl rfl)]
        exact .ok _
      · exact (hs rfl).elim
    · rcases hw.null_or_string with rfl | ⟨s, rfl⟩
      · rw [arithmetic_of_null .add (.inr rfl)]
        exact .ok _
      · exact (hs (Bool.or_true _)).elim

theorem compare_of_null (h : v = .null ∨ w = .null) : compare v w = .ok none := by
  unfold compare
  apply if_pos
  rcases h with rfl | rfl
  · rfl
  · exact Bool.or_true _

theorem compare_of_numbers (hv : v.isNumber = true) (hw : w.isNumber = true) :
    ∃ order, compare v w = .ok order := by
  obtain ⟨numbers, hn⟩ := exists_promote hv hw
  rw [compare, isNull_of_isNumber hv, isNull_of_isNumber hw, hn]
  exact ⟨_, rfl⟩

/-- A character has an order with whole numbers and characters, as it counts as its code point. -/
theorem compare_of_ordered (hv : v = .null ∨ v.isNumber = true ∨ ∃ c, v = .char c)
    (hw : w = .null ∨ w.isNumber = true ∨ ∃ c, w = .char c) :
    compare v w = .error (.type "comparable operands" v.typeName) ∧
        v.charAgainstFraction w = true ∨
      (∃ order, compare v w = .ok order) ∧ v.charAgainstFraction w = false := by
  have hdisjoint {x y : Value} (hx : x.isNumber = true) (hy : y.isNumber = true) :
      x.charAgainstFraction y = false := by
    cases x <;> cases hx <;> cases y <;> cases hy <;> rfl
  rcases hv with rfl | hv | ⟨c, rfl⟩
  · exact .inr ⟨⟨_, compare_of_null (.inl rfl)⟩, rfl⟩
  · rcases hw with rfl | hw | ⟨c, rfl⟩
    · refine .inr ⟨⟨_, compare_of_null (.inr rfl)⟩, ?_⟩
      cases v <;> rfl
    · exact .inr ⟨compare_of_numbers hv hw, hdisjoint hv hw⟩
    · cases v with
      | int n => exact .inr ⟨⟨_, rfl⟩, rfl⟩
      | decimal d => exact .inl ⟨rfl, rfl⟩
      | double x => exact .inl ⟨rfl, rfl⟩
      | _ => cases hv
  · rcases hw with rfl | hw | ⟨d, rfl⟩
    · exact .inr ⟨⟨_, compare_of_null (.inr rfl)⟩, rfl⟩
    · cases w with
      | int n => exact .inr ⟨⟨_, rfl⟩, rfl⟩
      | decimal d => exact .inl ⟨rfl, rfl⟩
      | double x => exact .inl ⟨rfl, rfl⟩
      | _ => cases hw
    · exact .inr ⟨⟨_, rfl⟩, rfl⟩

end Value

/-- The values that an operator refuses, although it takes their types. -/
def BinaryOp.Refuses (op : BinaryOp) (v w : Value) : Prop :=
  op.isLogical = true ∧ v = .null ∨
    (op = .lessThan ∨ op = .greaterThan) ∧ v.charAgainstFraction w = true

/-- A logical operator gives its right operand, unless the left one decides. -/
theorem evalExpr_logical {bindings : Bindings} {op : BinaryOp} (ho : op.isLogical = true)
    {left : Expr} (right : Expr) (type : Ty) {v : Value} (hl : evalExpr bindings left = .ok v) :
    evalExpr bindings (.binary op left right type) =
      (do
        let b ← v.expectBool
        if b = decide (op = .andAlso) then evalExpr bindings right else .ok (.bool b)) := by
  cases op with
  | andAlso =>
    rw [evalExpr, hl]
    change (v.expectBool >>= fun b => _) = _
    congr 1
    funext b
    cases b <;> rfl
  | orElse =>
    rw [evalExpr, hl]
    change (v.expectBool >>= fun b => _) = _
    congr 1
    funext b
    cases b <;> rfl
  | _ => cases ho

theorem evalExpr_strict_of_ok {bindings : Bindings} {op : BinaryOp}
    (ho : op ≠ .andAlso ∧ op ≠ .orElse ∧ op ≠ .coalesce) {left right : Expr} (type : Ty)
    {v w : Value} (hl : evalExpr bindings left = .ok v) (hr : evalExpr bindings right = .ok w) :
    evalExpr bindings (.binary op left right type) = Value.strict op v w := by
  rw [Expr.evalExpr_strict ho, hl, hr]
  rfl

/-- The order of two values is refused, or it gives a truth value. -/
theorem Value.strict_order_cases {op : BinaryOp} (ho : op = .lessThan ∨ op = .greaterThan)
    {t u : Ty} (happ : op.Applies t u) {v w : Value} (hv : v.HasType t) (hw : w.HasType u) :
    strict op v w = .error (.type "comparable operands" v.typeName) ∧
        v.charAgainstFraction w = true ∨
      (∃ b, strict op v w = .ok (.bool b)) ∧ v.charAgainstFraction w = false := by
  have hordered : t.isOrdered = true ∧ u.isOrdered = true := by
    rcases ho with rfl | rfl <;> exact happ
  have hcompare := compare_of_ordered (hv.null_or_number_or_char hordered.1)
    (hw.null_or_number_or_char hordered.2)
  rcases hcompare with ⟨hc, hmixed⟩ | ⟨⟨order, hc⟩, hmixed⟩
  · left
    rcases ho with rfl | rfl <;> exact ⟨by rw [strict, hc]; rfl, hmixed⟩
  · right
    rcases ho with rfl | rfl <;> exact ⟨⟨_, by rw [strict, hc]; rfl⟩, hmixed⟩

section Operands

variable {bindings : Bindings} {op : BinaryOp} {left right : Expr} (type : Ty) {v w : Value}
  (hl : evalExpr bindings left = .ok v) (hr : evalExpr bindings right = .ok w)
  (hv : v.HasType left.type) (hw : w.HasType right.type)
  (happ : op.Applies left.type right.type)
include hl hr hv hw happ

theorem evalExpr_of_refuses (h : op.Refuses v w) :
    ∃ expected found,
      evalExpr bindings (.binary op left right type) = .error (.type expected found) := by
  rcases h with ⟨ho, rfl⟩ | ⟨ho, hmixed⟩
  · exact ⟨"bool", "null", evalExpr_logical ho right type hl⟩
  · have hne : op ≠ .andAlso ∧ op ≠ .orElse ∧ op ≠ .coalesce := by
      rcases ho with rfl | rfl <;> decide
    have hstrict := evalExpr_strict_of_ok hne type hl hr
    rcases Value.strict_order_cases ho happ hv hw with ⟨hs, -⟩ | ⟨-, hs⟩
    · exact ⟨_, _, hstrict.trans hs⟩
    · rw [hmixed] at hs
      cases hs

theorem answers_of_not_refuses (h : ¬ op.Refuses v w) :
    Answers (evalExpr bindings (.binary op left right type)) := by
  obtain ⟨hlogical, horder⟩ := not_or.mp h
  have hstrict (ho : op ≠ .andAlso ∧ op ≠ .orElse ∧ op ≠ .coalesce)
      (hs : Answers (Value.strict op v w)) :
      Answers (evalExpr bindings (.binary op left right type)) := by
    rwa [evalExpr_strict_of_ok ho type hl hr]
  cases op with
  | andAlso | orElse =>
    rcases hv.null_or_bool happ.1 with rfl | ⟨b, rfl⟩
    · exact (hlogical ⟨rfl, rfl⟩).elim
    · rw [evalExpr_logical rfl right type hl, hr]
      cases b <;> exact .ok _
  | lessThan | greaterThan =>
    apply hstrict (by decide)
    rcases Value.strict_order_cases (by decide) happ hv hw with ⟨-, hmixed⟩ | ⟨⟨b, hs⟩, -⟩
    · exact (horder ⟨by decide, hmixed⟩).elim
    · rw [hs]
      exact .ok _
  | add => exact hstrict (by decide) (Value.strict_add_answers hv hw happ)
  | subtract =>
    exact hstrict (by decide) (Value.arithmetic_answers .subtract (hv.null_or_number happ.1)
      (hw.null_or_number happ.2))
  | multiply =>
    exact hstrict (by decide) (Value.arithmetic_answers .multiply (hv.null_or_number happ.1)
      (hw.null_or_number happ.2))
  | equal | notEqual => exact hstrict (by decide) (.ok _)
  | coalesce =>
    rw [evalExpr, hl, hr]
    change Answers (if v.isNull then .ok w else .ok v)
    split <;> exact .ok _

end Operands

theorem type_fault_iff_refuses (bindings : Bindings) (op : BinaryOp) (left right : Expr) (type : Ty)
    (hc : op.check left.type right.type type = .ok ()) (v w : Value)
    (hl : evalExpr bindings left = .ok v) (hr : evalExpr bindings right = .ok w)
    (hv : v.HasType left.type) (hw : w.HasType right.type) :
    ((∃ expected found,
        evalExpr bindings (.binary op left right type) = .error (.type expected found)) ↔
      op.isLogical = true ∧ v = .null ∨
        (op = .lessThan ∨ op = .greaterThan) ∧ v.charAgainstFraction w = true) ∧
    ∀ fault, evalExpr bindings (.binary op left right type) = .error fault →
      fault.isLackOfRoom = true ∨ ∃ expected found, fault = .type expected found := by
  have happ := BinaryOp.applies_of_check hc
  by_cases h : op.Refuses v w
  · obtain ⟨expected, found, hfault⟩ := evalExpr_of_refuses type hl hr hv hw happ h
    refine ⟨⟨fun _ => h, fun _ => ⟨expected, found, hfault⟩⟩, ?_⟩
    intro fault hf
    rw [hfault] at hf
    cases hf
    exact .inr ⟨_, _, rfl⟩
  · have hanswers := answers_of_not_refuses type hl hr hv hw happ h
    refine ⟨⟨?_, fun hr => (h hr).elim⟩, fun fault hf => .inl (hanswers fault hf)⟩
    rintro ⟨expected, found, hf⟩
    cases hanswers _ hf

/-- A character and a nullable whole number: nothing is refused. -/
theorem type_fault_iff_refuses_char_below_long :
    let c : Expr := .parameter ⟨"c", .char⟩
    let n : Expr := .parameter ⟨"n", .nullable .long⟩
    let bindings : Bindings := [("c", .char 'a'), ("n", .int 98)]
    BinaryOp.lessThan.check c.type n.type .bool = .ok () ∧
      evalExpr bindings c = .ok (.char 'a') ∧ evalExpr bindings n = .ok (.int 98) ∧
      Value.HasType (.char 'a') c.type ∧ Value.HasType (.int 98) n.type ∧
      evalExpr bindings (.binary .lessThan c n .bool) = .ok (.bool true) ∧
      ¬ ∃ expected found,
        evalExpr bindings (.binary .lessThan c n .bool) = .error (.type expected found) := by
  intro c n bindings
  have hc : Value.HasType (.char 'a') c.type := .char 'a'
  have hn : Value.HasType (.int 98) n.type := .some (.long 98)
  obtain ⟨hiff, -⟩ :=
    type_fault_iff_refuses bindings .lessThan c n .bool rfl (.char 'a') (.int 98) rfl rfl hc hn
  refine ⟨rfl, rfl, rfl, hc, hn, rfl, ?_⟩
  rw [hiff]
  rintro (⟨hlogical, -⟩ | ⟨-, hmixed⟩)
  · cases hlogical
  · cases hmixed

/-- A character below a decimal and a null in front of `&&` are rendered, and refused when they are
evaluated. -/
theorem rendered_operations_refused :
    let c : Expr := .parameter ⟨"c", .char⟩
    let m : Expr := .parameter ⟨"m", .decimal⟩
    let b : Expr := .parameter ⟨"b", .nullable .bool⟩
    let yes : Expr := .constant (.bool true) .bool none
    let limit : Value := .decimal ⟨1005, 1, by decide, by decide, by decide⟩
    let bindings : Bindings := [("c", .char 'a'), ("m", limit), ("b", .null)]
    render {} (.binary .lessThan c m .bool) = .ok "c < m" ∧
      evalExpr bindings c = .ok (.char 'a') ∧ evalExpr bindings m = .ok limit ∧
      Value.HasType (.char 'a') c.type ∧ limit.HasType m.type ∧
      evalExpr bindings (.binary .lessThan c m .bool) =
        .error (.type "comparable operands" "char") ∧
    render {} (.binary .andAlso b yes .bool) = .ok "b && true" ∧
      evalExpr bindings b = .ok .null ∧ evalExpr bindings yes = .ok (.bool true) ∧
      Value.HasType .null b.type ∧ Value.HasType (.bool true) yes.type ∧
      evalExpr bindings (.binary .andAlso b yes .bool) = .error (.type "bool" "null") := by
  intro c m b yes limit bindings
  have hless : render {} (.binary .lessThan c m .bool) = .ok "c < m" := by decide
  have hand : render {} (.binary .andAlso b yes .bool) = .ok "b && true" := by decide
  exact ⟨hless, rfl, rfl, .char 'a', .decimal _, rfl, hand, rfl, rfl, .none .bool, .bool true, rfl⟩

end Legible
