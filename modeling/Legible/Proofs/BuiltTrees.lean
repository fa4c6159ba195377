import Legible.Expr.Builder
import Legible.Proofs.LineBreaks
import Legible.Proofs.OperandTypes

/-!
# Trees made by the builders

The builders of sums, differences and products declare the type of the left operand. Evaluation
widens both operands instead, numbers to decimals and anything to text, so that the declared type is
the one of the value as long as no operand that reaches the result is wider.
-/

namespace Legible

def Ty.valueName? : Ty → Option String
  | .int | .long => some "int"
  | .decimal => some "decimal"
  | .string => some "string"
  | .bool => some "bool"
  | _ => none

def Ty.breadth : Ty → Nat
  | .string => 2
  | .decimal => 1
  | _ => 0

def Value.breadth : Value → Nat
  | .string _ => 2
  | .decimal _ => 1
  | _ => 0

namespace Expr

/-- The breadth of the widest operand that reaches the result. A comparison lets none through, and a
logical operator the right one. -/
def breadth : Expr → Nat
  | .binary op left right _ =>
    match op with
    | .lessThan | .greaterThan | .equal | .notEqual => 0
    | .andAlso | .orElse => breadth right
    | .add | .subtract | .multiply | .coalesce => max (breadth left) (breadth right)
  | e => e.type.breadth

/-- Trees of constants and operators, with the types that the builders declare. -/
inductive Built : Expr → Prop where
  | constant {value : Literal} {type : Ty} (hv : value ≠ .null)
      (ht : type = .int ∨ type = .long ∨ type = .decimal ∨ type = .string ∨ type = .bool) :
      Built (const value type)
  | decimal {text : String} {e : Expr} (h : Expr.decimal text = .ok e) : Built e
  | arithmetic {op : BinaryOp} (ho : op = .add ∨ op = .subtract ∨ op = .multiply)
      {left right : Expr} (hl : Built left) (hr : Built right) :
      Built (Expr.arithmetic op left right)
  | predicate {op : BinaryOp} (ho : op.isComparison = true ∨ op.isLogical = true)
      {left right : Expr} (hl : Built left) (hr : Built right) :
      Built (Expr.predicate op left right)

end Expr

namespace Value

/-! ## Values that are at least as wide as their type -/

inductive Widens : Value → Ty → Prop where
  | bool (b : Bool) : Widens (.bool b) .bool
  | int (n : Int64) : Widens (.int n) .int
  | long (n : Int64) : Widens (.int n) .long
  | decimal (d : Decimal) {t : Ty} (ht : t ≠ .string) : Widens (.decimal d) t
  | string (s : String) (t : Ty) : Widens (.string s) t

variable {t u : Ty} {v w x : Value}

theorem Widens.valueName?_eq_iff (h : v.Widens t) :
    t.valueName? = some v.typeName ↔ v.breadth ≤ t.breadth := by
  cases h with
  | bool | int | long => exact ⟨fun _ => Nat.le_refl 0, fun _ => rfl⟩
  | decimal d ht =>
    change t.valueName? = some "decimal" ↔ 1 ≤ t.breadth
    unfold Ty.valueName? Ty.breadth
    split <;> simp_all
  | string s =>
    change t.valueName? = some "string" ↔ 2 ≤ t.breadth
    unfold Ty.valueName? Ty.breadth
    split <;> simp_all

theorem Widens.to_bool (h : v.Widens t) (ht : t.isBool = true) : v.Widens .bool := by
  cases h with
  | bool b => exact .bool b
  | int | long => cases ht
  | decimal d => exact .decimal d (by decide)
  | string s => exact .string s .bool

theorem exists_of_map_ok {α : Type} {r : Except EvalError α} {f : α → Value}
    (h : r.map f = .ok x) : ∃ a, x = f a := by
  cases r with
  | error fault => cases h
  | ok a => exact ⟨a, (Except.ok.inj h).symm⟩

theorem arithmetic_widens {op : Arithmetic} (hv : v.Widens t) (hw : w.Widens u)
    (h : arithmetic op v w = .ok x) : x.Widens t ∧ x.breadth = max v.breadth w.breadth := by
  cases hv with
  | bool b => cases hw <;> cases h
  | string s => cases hw <;> cases h
  | int n | long n =>
    cases hw with
    | bool | string => cases h
    | int m | long m =>
      obtain ⟨k, rfl⟩ := exists_of_map_ok (r := op.onInt n m) h
      exact ⟨by constructor, rfl⟩
    | decimal d =>
      obtain ⟨k, rfl⟩ := exists_of_map_ok (r := op.onDecimal (.ofInt64 n) d) h
      exact ⟨.decimal k (by decide), rfl⟩
  | decimal c ht =>
    cases hw with
    | bool | string => cases h
    | int m | long m =>
      obtain ⟨k, rfl⟩ := exists_of_map_ok (r := op.onDecimal c (.ofInt64 m)) h
      exact ⟨.decimal k ht, rfl⟩
    | decimal d =>
      obtain ⟨k, rfl⟩ := exists_of_map_ok (r := op.onDecimal c d) h
      exact ⟨.decimal k ht, rfl⟩

theorem breadth_le_two (v : Value) : v.breadth ≤ 2 := by
  cases v <;> simp [breadth]

theorem breadth_of_isString (h : v.isString = true) : v.breadth = 2 := by
  cases v with
  | string s => rfl
  | _ => cases h

/-- A sum, a difference or a product is as wide as the wider operand, and never narrower than the
type of the left one. -/
theorem strict_widens {op : BinaryOp} (ho : op = .add ∨ op = .subtract ∨ op = .multiply)
    (hv : v.Widens t) (hw : w.Widens u) (h : strict op v w = .ok x) :
    x.Widens t ∧ x.breadth = max v.breadth w.breadth := by
  rcases ho with rfl | rfl | rfl
  · rw [strict] at h
    split at h
    · rename_i hs
      obtain rfl := Except.ok.inj h
      refine ⟨.string _ t, ?_⟩
      change 2 = max v.breadth w.breadth
      have hleft := breadth_le_two v
      have hright := breadth_le_two w
      rcases Bool.or_eq_true_iff.mp hs with hs | hs
      · have := breadth_of_isString hs
        omega
      · have := breadth_of_isString hs
        omega
    · exact arithmetic_widens hv hw h
  · exact arithmetic_widens hv hw h
  · exact arithmetic_widens hv hw h

theorem exists_of_strict_comparison {op : BinaryOp} (ho : op.isComparison = true)
    (h : strict op v w = .ok x) : ∃ b, x = .bool b := by
  cases op with
  | lessThan | greaterThan =>
    rw [strict] at h
    obtain ⟨order, rfl⟩ := exists_of_map_ok h
    exact ⟨_, rfl⟩
  | equal | notEqual => exact ⟨_, (Except.ok.inj h).symm⟩
  | _ => cases ho

end Value

namespace Expr

/-! ## Values of built trees -/

variable {bindings : Bindings} {op : BinaryOp} {left right : Expr} {type : Ty} {v : Value}

theorem exists_of_evalExpr_strict (ho : op ≠ .andAlso ∧ op ≠ .orElse ∧ op ≠ .coalesce)
    (h : evalExpr bindings (.binary op left right type) = .ok v) :
    ∃ a b, evalExpr bindings left = .ok a ∧ evalExpr bindings right = .ok b ∧
      Value.strict op a b = .ok v := by
  rw [evalExpr_strict ho] at h
  cases hl : evalExpr bindings left with
  | error fault =>
    rw [hl] at h
    cases h
  | ok a =>
    cases hr : evalExpr bindings right with
    | error fault =>
      rw [hl, hr] at h
      cases h
    | ok b =>
      rw [hl, hr] at h
      exact ⟨a, b, rfl, rfl, h⟩

theorem evalExpr_logical_cases (ho : op.isLogical = true)
    (h : evalExpr bindings (.binary op left right type) = .ok v) :
    (∃ b, v = .bool b) ∨ evalExpr bindings right = .ok v := by
  cases hl : evalExpr bindings left with
  | error fault =>
    cases op with
    | andAlso | orElse =>
      rw [evalExpr, hl] at h
      cases h
    | _ => cases ho
  | ok a =>
    rw [evalExpr_logical ho right type hl] at h
    cases a with
    | bool b =>
      change (if b = decide (op = .andAlso) then evalExpr bindings right else .ok (.bool b)) = .ok v
        at h
      split at h
      · exact .inr h
      · exact .inl ⟨b, (Except.ok.inj h).symm⟩
    | _ => cases h

/-- No logical operator, so that every operand is evaluated. -/
def StraightLine (e : Expr) : Prop :=
  ∀ op left right type, .binary op left right type ∈ e.nodes → op.isLogical = false

theorem StraightLine.of_mem_parts {e part : Expr} (h : e.StraightLine) (hp : part ∈ e.parts) :
    part.StraightLine :=
  fun op left right type hn => h op left right type (nodes_subset_of_mem_parts hp _ hn)

theorem not_straightLine (ho : op.isLogical = true) (left right : Expr) (type : Ty) :
    ¬ StraightLine (.binary op left right type) := by
  intro h
  have hfalse := h op left right type (mem_nodes_self _)
  rw [ho] at hfalse
  cases hfalse

/-- The value is no narrower than the type and no wider than the operands. -/
structure Yields (e : Expr) (v : Value) : Prop where
  widens : v.Widens e.type
  breadth_le : v.breadth ≤ e.breadth
  breadth_eq : e.StraightLine → v.breadth = e.breadth

/-- The value of a literal that fits its type has that type. -/
theorem yields_const {value : Literal} (hv : value ≠ .null) (hf : value.Fits type)
    (ht : type = .int ∨ type = .long ∨ type = .decimal ∨ type = .string ∨ type = .bool)
    (h : value.value type = .ok v) : (const value type).Yields v := by
  have hn : type.nonNullable = type := by rcases ht with rfl | rfl | rfl | rfl | rfl <;> rfl
  have hsame : v.Widens type ∧ v.breadth = type.breadth := by
    cases value with
    | null => exact (hv rfl).elim
    | bool b =>
      obtain rfl : type = .bool := hn.symm.trans hf
      obtain rfl := Except.ok.inj h
      exact ⟨.bool b, rfl⟩
    | integer n =>
      rw [Literal.Fits, hn] at hf
      rcases hf with ⟨rfl, -⟩ | rfl | rfl
      · obtain rfl := Except.ok.inj h
        exact ⟨.int n, rfl⟩
      · obtain rfl := Except.ok.inj h
        exact ⟨.long n, rfl⟩
      · obtain rfl := Except.ok.inj h
        exact ⟨.decimal _ (by decide), rfl⟩
    | decimal d =>
      obtain rfl : type = .decimal := hn.symm.trans hf
      obtain ⟨k, rfl⟩ := Value.exists_of_map_ok h
      exact ⟨.decimal k (by decide), rfl⟩
    | double y =>
      obtain rfl : type = .double := hn.symm.trans hf
      simp at ht
    | char c =>
      obtain rfl : type = .char := hn.symm.trans hf
      simp at ht
    | string s =>
      rw [Literal.Fits, hn] at hf
      rcases hf with rfl | rfl
      · obtain rfl := Except.ok.inj h
        exact ⟨.string s _, rfl⟩
      · simp at ht
  exact ⟨hsame.1, hsame.2.le, fun _ => hsame.2⟩

theorem yields_decimal {text : String} {e : Expr} (he : Expr.decimal text = .ok e)
    (h : evalExpr bindings e = .ok v) : e.Yields v := by
  unfold Expr.decimal at he
  cases hd : DecimalText.parse text with
  | error fault =>
    rw [hd] at he
    cases he
  | ok d =>
    rw [hd] at he
    obtain rfl := Except.ok.inj he
    obtain ⟨k, rfl⟩ := Value.exists_of_map_ok h
    have hne : Ty.decimal ≠ .string := by decide
    exact ⟨.decimal k hne, Nat.le_refl 1, fun _ => rfl⟩

theorem yields_arithmetic (ho : op = .add ∨ op = .subtract ∨ op = .multiply)
    (hl : ∀ a, evalExpr bindings left = .ok a → left.Yields a)
    (hr : ∀ b, evalExpr bindings right = .ok b → right.Yields b)
    (h : evalExpr bindings (.arithmetic op left right) = .ok v) :
    (Expr.arithmetic op left right).Yields v := by
  have hne : op ≠ .andAlso ∧ op ≠ .orElse ∧ op ≠ .coalesce := by
    rcases ho with rfl | rfl | rfl <;> decide
  obtain ⟨a, b, ha, hb, hs⟩ := exists_of_evalExpr_strict hne h
  replace hl := hl a ha
  replace hr := hr b hb
  obtain ⟨hw, hv⟩ := Value.strict_widens ho hl.widens hr.widens hs
  have hbreadth : (Expr.arithmetic op left right).breadth = max left.breadth right.breadth := by
    rcases ho with rfl | rfl | rfl <;> rfl
  refine ⟨hw, ?_, ?_⟩
  · rw [hv, hbreadth]
    exact max_le_max hl.breadth_le hr.breadth_le
  · intro hline
    rw [hv, hbreadth, hl.breadth_eq (hline.of_mem_parts List.mem_cons_self),
      hr.breadth_eq (hline.of_mem_parts (List.mem_cons_of_mem _ List.mem_cons_self))]

theorem yields_comparison (ho : op.isComparison = true)
    (h : evalExpr bindings (.predicate op left right) = .ok v) :
    (Expr.predicate op left right).Yields v := by
  have hne : op ≠ .andAlso ∧ op ≠ .orElse ∧ op ≠ .coalesce := by
    refine ⟨?_, ?_, ?_⟩ <;> rintro rfl <;> cases ho
  obtain ⟨a, b, -, -, hs⟩ := exists_of_evalExpr_strict hne h
  obtain ⟨c, rfl⟩ := Value.exists_of_strict_comparison ho hs
  have hbreadth : (Expr.predicate op left right).breadth = 0 := by
    cases op with
    | lessThan | greaterThan | equal | notEqual => rfl
    | _ => cases ho
  refine ⟨.bool c, Nat.zero_le _, ?_⟩
  rw [hbreadth]
  exact fun _ => rfl

/-- The right operand is given as it is, so it matters that its declared type was checked. -/
theorem yields_logical (ho : op.isLogical = true) (happ : op.Applies left.type right.type)
    (hr : ∀ b, evalExpr bindings right = .ok b → right.Yields b)
    (h : evalExpr bindings (.predicate op left right) = .ok v) :
    (Expr.predicate op left right).Yields v := by
  have hright : right.type.isBool = true ∧
      (Expr.predicate op left right).breadth = right.breadth := by
    cases op with
    | andAlso | orElse => exact ⟨happ.2, rfl⟩
    | _ => cases ho
  have hline := not_straightLine ho left right .bool
  rcases evalExpr_logical_cases ho h with ⟨b, rfl⟩ | hv
  · exact ⟨.bool b, Nat.zero_le _, fun h => (hline h).elim⟩
  · refine ⟨(hr v hv).widens.to_bool hright.1, ?_, fun h => (hline h).elim⟩
    rw [hright.2]
    exact (hr v hv).breadth_le

theorem Built.yields {e : Expr} (he : e.Built) (hp : ∀ n ∈ e.nodes, Style.Passes {} n)
    (h : evalExpr bindings e = .ok v) : e.Yields v := by
  have hparts {e part : Expr} (hp : ∀ n ∈ e.nodes, Style.Passes {} n) (hmem : part ∈ e.parts) :
      ∀ n ∈ part.nodes, Style.Passes {} n :=
    fun n hn => hp n (nodes_subset_of_mem_parts hmem n hn)
  induction he generalizing v with
  | constant hv ht =>
    rcases hp _ (mem_nodes_self _) with ⟨hc, -⟩ | hf
    · cases hc
    · exact yields_const hv hf ht h
  | decimal hd => exact yields_decimal hd h
  | arithmetic ho hl hr ihl ihr =>
    apply yields_arithmetic ho _ _ h
    · exact fun a => ihl (hparts hp List.mem_cons_self)
    · exact fun b => ihr (hparts hp (List.mem_cons_of_mem _ List.mem_cons_self))
  | predicate ho hl hr ihl ihr =>
    rcases ho with ho | ho
    · exact yields_comparison ho h
    · apply yields_logical ho (BinaryOp.applies_of_check (hp _ (mem_nodes_self _))) _ h
      exact fun b => ihr (hparts hp (List.mem_cons_of_mem _ List.mem_cons_self))

end Expr

theorem declared_type_of_built_tree (e : Expr) (he : e.Built) (text : String)
    (hr : render {} e = .ok text) (v : Value) (hv : evaluate (.function [] e) [] = .ok v) :
    (e.breadth ≤ e.type.breadth → e.type.valueName? = some v.typeName) ∧
    (e.StraightLine → e.type.valueName? = some v.typeName → e.breadth ≤ e.type.breadth) := by
  have hy : e.Yields v := he.yields (passes_of_render_ok hr) (show evalExpr [] e = .ok v from hv)
  rw [hy.widens.valueName?_eq_iff]
  refine ⟨fun h => hy.breadth_le.trans h, ?_⟩
  intro hline h
  rwa [hy.breadth_eq hline] at h

/-- The inner sum has a declared type that is too narrow, which the text in front makes up for. -/
theorem declared_type_of_built_tree_text :
    let half : Expr := .const (.decimal ⟨"0.5", by decide⟩) .decimal
    let sum : Expr := .add (.const (.integer 1) .int) half
    let label : Expr := .add (.const (.string "sum ") .string) sum
    let e : Expr := .andAlso (.notEqual label (.const (.string "") .string)) (.lessThan half sum)
    e.Built ∧ render {} e = .ok "\"sum \" + (1 + 0.5m) != \"\" && 0.5m < 1 + 0.5m" ∧
      evaluate (.function [] e) [] = .ok (.bool true) ∧
      e.type.valueName? = some (Value.typeName (.bool true)) := by
  intro half sum label e
  have hhalf : half.Built := .constant (by simp) (by simp)
  have hsum : sum.Built := .arithmetic (by simp) (.constant (by simp) (by simp)) hhalf
  have hlabel : label.Built := .arithmetic (by simp) (.constant (by simp) (by simp)) hsum
  have he : e.Built := .predicate (.inr rfl)
    (.predicate (.inl rfl) hlabel (.constant (by simp) (by simp))) (.predicate (.inl rfl) hhalf hsum)
  have hr : render {} e = .ok "\"sum \" + (1 + 0.5m) != \"\" && 0.5m < 1 + 0.5m" := by
    decide +kernel
  have hv : evaluate (.function [] e) [] = .ok (.bool true) := by rfl
  exact ⟨he, hr, hv, (declared_type_of_built_tree e he _ hr _ hv).1 (by decide)⟩

/-- One and a half is declared a whole number. -/
theorem sum_declared_int_is_decimal :
    let half : Expr := .const (.decimal ⟨"0.5", by decide⟩) .decimal
    let sum : Expr := .add (.const (.integer 1) .int) half
    let v : Value := .decimal ⟨15, 1, by decide, by decide, by decide⟩
    Expr.decimal "0.5" = .ok half ∧ sum.Built ∧ render {} sum = .ok "1 + 0.5m" ∧
      evaluate (.function [] sum) [] = .ok v ∧ sum.type = .int ∧ v.typeName = "decimal" ∧
      sum.type.valueName? ≠ some v.typeName := by
  intro half sum v
  have hhalf : Expr.decimal "0.5" = .ok half := by rfl
  have hsum : sum.Built := .arithmetic (by simp) (.constant (by simp) (by simp)) (.decimal hhalf)
  have hr : render {} sum = .ok "1 + 0.5m" := by decide +kernel
  exact ⟨hhalf, hsum, hr, rfl, rfl, rfl, by decide⟩

end Legible
