import Legible.Eval
import Legible.Proofs.DecimalNumber
import Legible.Proofs.Nodes

/-!
# Evaluation beside exact arithmetic

Trees of numbers, comparisons and conditions have a value in the arithmetic of rational numbers and
truth values, where nothing is too large. Evaluation gives that value or fails for lack of room; it
never gives another one, and it never takes another branch.
-/

namespace Legible

inductive Exact where
  | number (q : ℚ)
  | truth (b : Bool)
deriving DecidableEq

namespace Exact

/-- What is known of a value before it is computed. -/
inductive Kind where
  | number
  | truth
  | either
deriving DecidableEq

def Kind.join : Kind → Kind → Kind
  | .number, .number => .number
  | .truth, .truth => .truth
  | _, _ => .either

inductive Kind.Admits : Kind → Exact → Prop where
  | number (q : ℚ) : Admits .number (.number q)
  | truth (b : Bool) : Admits .truth (.truth b)
  | either (x : Exact) : Admits .either x

theorem Kind.Admits.exists_number {x : Exact} (h : Kind.number.Admits x) : ∃ q, x = .number q := by
  cases h
  exact ⟨_, rfl⟩

theorem Kind.Admits.exists_truth {x : Exact} (h : Kind.truth.Admits x) : ∃ b, x = .truth b := by
  cases h
  exact ⟨_, rfl⟩

theorem Kind.Admits.join_left {k : Kind} {x : Exact} (h : k.Admits x) (l : Kind) :
    (k.join l).Admits x := by
  cases h <;> cases l <;> constructor

theorem Kind.Admits.join_right {l : Kind} {x : Exact} (h : l.Admits x) (k : Kind) :
    (k.join l).Admits x := by
  cases h <;> cases k <;> constructor

end Exact

def Value.meaning? : Value → Option Exact
  | .int n => some (.number n.toInt)
  | .decimal d => some (.number d.number)
  | .bool b => some (.truth b)
  | _ => none

def BinaryOp.meaning? : BinaryOp → Exact → Exact → Option Exact
  | .add, .number x, .number y => some (.number (x + y))
  | .subtract, .number x, .number y => some (.number (x - y))
  | .multiply, .number x, .number y => some (.number (x * y))
  | .lessThan, .number x, .number y => some (.truth (decide (x < y)))
  | .greaterThan, .number x, .number y => some (.truth (decide (y < x)))
  | .equal, .number x, .number y => some (.truth (decide (x = y)))
  | .notEqual, .number x, .number y => some (.truth (decide (x ≠ y)))
  | .andAlso, .truth a, .truth b => some (.truth (a && b))
  | .orElse, .truth a, .truth b => some (.truth (a || b))
  | _, _, _ => none

def Exact.extreme? : Ty → String → Exact → Exact → Option Exact
  | .named "Math" _, "Min", .number x, .number y => some (.number (min x y))
  | .named "Math" _, "Max", .number x, .number y => some (.number (max x y))
  | _, _, _, _ => none

def Exact.choose? : Exact → Exact → Exact → Option Exact
  | .truth c, x, y => some (if c then x else y)
  | .number _, _, _ => none

namespace Expr

/-- The value of a tree in exact arithmetic, where every part of it has one. -/
def meaning? (bindings : Bindings) : Expr → Option Exact
  | .parameter p => (bindings.lookup p.name).bind Value.meaning?
  | .constant (.integer n) _ _ => some (.number n.toInt)
  | .constant (.decimal d) _ _ => some (.number (decimalNumber d.text.toList))
  | .binary op left right _ => do
    let x ← meaning? bindings left
    let y ← meaning? bindings right
    op.meaning? x y
  | .conditional test ifTrue ifFalse _ => do
    let c ← meaning? bindings test
    let x ← meaning? bindings ifTrue
    let y ← meaning? bindings ifFalse
    c.choose? x y
  | .staticCall declaring method _ arguments _ =>
    match arguments with
    | [a, b] => do
      let x ← meaning? bindings a
      let y ← meaning? bindings b
      Exact.extreme? declaring method x y
    | _ => none
  | _ => none
termination_by structural e => e

/-- Trees of whole and decimal constants, parameters, arithmetic, comparisons, conditions. -/
inductive Computes : Exact.Kind → Expr → Prop where
  | parameter (p : Parameter) : Computes .number (.parameter p)
  | integer (n : Int64) {type : Ty} (captured : Option String)
      (h : type = .int ∨ type = .long ∨ type = .decimal) :
      Computes .number (.constant (.integer n) type captured)
  | decimal (d : DecimalText) (type : Ty) (captured : Option String) :
      Computes .number (.constant (.decimal d) type captured)
  | arithmetic {op : BinaryOp} {left right : Expr} (type : Ty)
      (ho : op = .add ∨ op = .subtract ∨ op = .multiply)
      (hl : Computes .number left) (hr : Computes .number right) :
      Computes .number (.binary op left right type)
  | comparison {op : BinaryOp} {left right : Expr} (type : Ty)
      (ho : op = .lessThan ∨ op = .greaterThan ∨ op = .equal ∨ op = .notEqual)
      (hl : Computes .number left) (hr : Computes .number right) :
      Computes .truth (.binary op left right type)
  | logical {op : BinaryOp} {left right : Expr} (type : Ty) (ho : op = .andAlso ∨ op = .orElse)
      (hl : Computes .truth left) (hr : Computes .truth right) :
      Computes .truth (.binary op left right type)
  | extreme {method : String} {a b : Expr} (parameters types : List Ty) (type : Ty)
      (hm : method = "Min" ∨ method = "Max") (ha : Computes .number a) (hb : Computes .number b) :
      Computes .number (.staticCall (.named "Math" parameters) method types [a, b] type)
  | conditional {k l : Exact.Kind} {test ifTrue ifFalse : Expr} (type : Ty)
      (ht : Computes .truth test) (ha : Computes k ifTrue) (hb : Computes l ifFalse) :
      Computes (k.join l) (.conditional test ifTrue ifFalse type)

def NumbersIn (bindings : Bindings) (e : Expr) : Prop :=
  ∀ p, .parameter p ∈ e.nodes →
    ∃ v q, bindings.lookup p.name = some v ∧ v.meaning? = some (.number q)

theorem NumbersIn.of_mem_parts {bindings : Bindings} {e part : Expr} (h : e.NumbersIn bindings)
    (hp : part ∈ e.parts) : part.NumbersIn bindings :=
  fun p hn => h p (nodes_subset_of_mem_parts hp _ hn)

end Expr

/-- A result ran out of room: an overflow, or a literal with too many digits. -/
def EvalError.isLackOfRoom : EvalError → Bool
  | .intOverflow | .decimalOverflow _ | .invalidDecimal _ => true
  | _ => false

namespace Exact

/-- A result that is this value or none for lack of room. -/
def Shows (x : Exact) : Except EvalError Value → Prop
  | .ok v => v.meaning? = some x
  | .error fault => fault.isLackOfRoom = true

theorem Shows.bind {x y : Exact} {r : Except EvalError Value} (h : x.Shows r)
    {f : Value → Except EvalError Value} (hf : ∀ v, v.meaning? = some x → y.Shows (f v)) :
    y.Shows (r >>= f) := by
  cases r with
  | error fault => exact h
  | ok v => exact hf v h

end Exact

namespace Value

theorem eq_bool_of_meaning? {v : Value} {b : Bool} (h : v.meaning? = some (.truth b)) :
    v = .bool b := by
  cases v <;> cases h
  rfl

theorem int_or_decimal_of_meaning? {v : Value} {q : ℚ} (h : v.meaning? = some (.number q)) :
    (∃ n : Int64, v = .int n ∧ q = n.toInt) ∨ ∃ d : Decimal, v = .decimal d ∧ q = d.number := by
  cases v with
  | int n =>
    cases h
    exact .inl ⟨n, rfl, rfl⟩
  | decimal d =>
    cases h
    exact .inr ⟨d, rfl, rfl⟩
  | _ => cases h

theorem isNull_of_meaning? {v : Value} {x : Exact} (h : v.meaning? = some x) :
    v.isNull = false := by
  cases v with
  | null => cases h
  | _ => rfl

theorem isString_of_meaning? {v : Value} {x : Exact} (h : v.meaning? = some x) :
    v.isString = false := by
  cases v with
  | string s => cases h
  | _ => rfl

def Arithmetic.exact : Arithmetic → ℚ → ℚ → ℚ
  | .add, x, y => x + y
  | .subtract, x, y => x - y
  | .multiply, x, y => x * y

theorem checkedInt64_shows (n : Int) : (Exact.number n).Shows ((checkedInt64 n).map .int) := by
  unfold checkedInt64
  split
  · rename_i h
    have hn : (Int64.ofInt n).toInt = n := Int64.toInt_ofInt_of_le h.1 (by omega)
    change some (Exact.number (Int64.ofInt n).toInt) = _
    rw [hn]
  · rfl

theorem Arithmetic.onInt_shows (op : Arithmetic) (a b : Int64) :
    (Exact.number (op.exact a.toInt b.toInt)).Shows ((op.onInt a b).map .int) := by
  cases op with
  | add =>
    rw [Arithmetic.exact, ← Int.cast_add]
    exact checkedInt64_shows (a.toInt + b.toInt)
  | subtract =>
    rw [Arithmetic.exact, ← Int.cast_sub]
    exact checkedInt64_shows (a.toInt - b.toInt)
  | multiply =>
    rw [Arithmetic.exact, ← Int.cast_mul]
    exact checkedInt64_shows (a.toInt * b.toInt)

/-- The result of an operation on decimals, whose number is known if it fits. -/
theorem decimal_shows {r : Except Decimal.Overflow Decimal} {q : ℚ}
    (h : ∀ d, r = .ok d → d.number = q) :
    (Exact.number q).Shows ((r.mapError EvalError.decimalOverflow).map .decimal) := by
  cases r with
  | error cause => rfl
  | ok d =>
    change some (Exact.number d.number) = _
    rw [h d rfl]

theorem Arithmetic.onDecimal_shows (op : Arithmetic) (a b : Decimal) :
    (Exact.number (op.exact a.number b.number)).Shows ((op.onDecimal a b).map .decimal) := by
  cases op with
  | add => exact decimal_shows fun _ => Decimal.number_add
  | subtract => exact decimal_shows fun _ => Decimal.number_sub
  | multiply => exact decimal_shows fun _ => Decimal.number_mul

theorem beq_order {o o' : Ordering} {p : Prop} [Decidable p] (h : o = o' ↔ p) :
    (some o == some o') = decide p := by
  rw [← Bool.coe_iff_coe, beq_iff_eq, Option.some_inj, h, decide_eq_true_iff]

section Operands

variable {v w : Value} {x y : ℚ} (hv : v.meaning? = some (.number x))
  (hw : w.meaning? = some (.number y))
include hv hw

/-- Two numbers are brought to one kind without a change of either. -/
theorem promote_of_meaning? :
    (∃ a b : Int64, promote v w = some (.int a b) ∧ x = a.toInt ∧ y = b.toInt) ∨
      ∃ a b : Decimal, promote v w = some (.decimal a b) ∧ x = a.number ∧ y = b.number := by
  rcases int_or_decimal_of_meaning? hv with ⟨m, rfl, rfl⟩ | ⟨c, rfl, rfl⟩
  · rcases int_or_decimal_of_meaning? hw with ⟨n, rfl, rfl⟩ | ⟨d, rfl, rfl⟩
    · exact .inl ⟨m, n, rfl, rfl, rfl⟩
    · exact .inr ⟨.ofInt64 m, d, rfl, (Decimal.number_ofInt64 m).symm, rfl⟩
  · rcases int_or_decimal_of_meaning? hw with ⟨n, rfl, rfl⟩ | ⟨d, rfl, rfl⟩
    · exact .inr ⟨c, .ofInt64 n, rfl, rfl, (Decimal.number_ofInt64 n).symm⟩
    · exact .inr ⟨c, d, rfl, rfl, rfl⟩

theorem exists_promote_compare :
    ∃ numbers, promote v w = some numbers ∧ numbers.compare = some (Ord.compare x y) := by
  rcases promote_of_meaning? hv hw with ⟨a, b, h, rfl, rfl⟩ | ⟨a, b, h, rfl, rfl⟩
  · exact ⟨_, h, congrArg some (Decimal.compare_of_strictMono Int.cast_strictMono _ _).symm⟩
  · exact ⟨_, h, congrArg some (a.cmp_eq_compare_number b)⟩

theorem compare_of_meaning? : compare v w = .ok (some (Ord.compare x y)) := by
  obtain ⟨numbers, hp, hc⟩ := exists_promote_compare hv hw
  rw [compare, isNull_of_meaning? hv, isNull_of_meaning? hw, hp]
  simp [hc]

theorem equals_of_meaning? : equals v w = decide (x = y) := by
  obtain ⟨numbers, hp, hc⟩ := exists_promote_compare hv hw
  rw [equals, hp]
  simp only [hc, beq_order compare_eq_iff_eq]

theorem arithmetic_shows (op : Arithmetic) :
    (Exact.number (op.exact x y)).Shows (arithmetic op v w) := by
  rw [arithmetic, isNull_of_meaning? hv, isNull_of_meaning? hw]
  rcases promote_of_meaning? hv hw with ⟨a, b, h, rfl, rfl⟩ | ⟨a, b, h, rfl, rfl⟩
  · rw [h]
    exact op.onInt_shows a b
  · rw [h]
    exact op.onDecimal_shows a b

theorem strict_shows {op : BinaryOp} {z : Exact}
    (hz : op.meaning? (.number x) (.number y) = some z) :
    z.Shows (strict op v w) := by
  have hcompare := compare_of_meaning? hv hw
  cases op with
  | add =>
    cases hz
    rw [strict, isString_of_meaning? hv, isString_of_meaning? hw]
    exact arithmetic_shows hv hw .add
  | subtract =>
    cases hz
    exact arithmetic_shows hv hw .subtract
  | multiply =>
    cases hz
    exact arithmetic_shows hv hw .multiply
  | lessThan =>
    cases hz
    rw [strict, hcompare, ← beq_order compare_lt_iff_lt]
    rfl
  | greaterThan =>
    cases hz
    rw [strict, hcompare, ← beq_order compare_gt_iff_gt]
    rfl
  | equal =>
    cases hz
    rw [strict, equals_of_meaning? hv hw]
    rfl
  | notEqual =>
    cases hz
    rw [strict, equals_of_meaning? hv hw, ← decide_not]
    rfl
  | andAlso => cases hz
  | orElse => cases hz
  | coalesce => cases hz

theorem extreme_shows (smaller : Bool) :
    (Exact.number (if smaller then min x y else max x y)).Shows (extreme smaller v w) := by
  have horder : (Ord.compare x y != .gt) = decide (x ≤ y) := by
    rw [← Bool.coe_iff_coe, bne_iff_ne, ne_eq, compare_gt_iff_gt, not_lt, decide_eq_true_iff]
  rw [extreme, compare_of_meaning? hv hw]
  change (if (smaller == (Ord.compare x y != .gt)) = true then v else w).meaning? = _
  rw [horder]
  -- of two equal numbers either will do: the larger is then the second
  rcases le_or_gt x y with h | h
  · cases smaller <;> simp [h, hv, hw]
  · cases smaller <;> simp [h.le, not_le.mpr h, hv, hw]

end Operands

end Value

theorem Literal.value_integer_shows (n : Int64) {type : Ty}
    (h : type = .int ∨ type = .long ∨ type = .decimal) :
    (Exact.number n.toInt).Shows ((Literal.integer n).value type) := by
  rcases h with rfl | rfl | rfl
  · rfl
  · rfl
  · change some (Exact.number (Decimal.ofInt64 n).number) = _
    rw [Decimal.number_ofInt64]

theorem Literal.value_decimal_shows (d : DecimalText) (type : Ty) :
    (Exact.number (decimalNumber d.text.toList)).Shows ((Literal.decimal d).value type) := by
  rw [Literal.value, Decimal.ofText]
  cases h : Decimal.parse d.text with
  | error fault => cases fault <;> rfl
  | ok c =>
    change some (Exact.number c.number) = _
    rw [Decimal.number_of_parse h]

namespace Expr

variable {bindings : Bindings}

theorem evalExpr_strict {op : BinaryOp} (ho : op ≠ .andAlso ∧ op ≠ .orElse ∧ op ≠ .coalesce)
    (left right : Expr) (type : Ty) :
    evalExpr bindings (.binary op left right type) =
      (do
        let v ← evalExpr bindings left
        let w ← evalExpr bindings right
        Value.strict op v w) := by
  cases op with
  | andAlso => exact (ho.1 rfl).elim
  | orElse => exact (ho.2.1 rfl).elim
  | coalesce => exact (ho.2.2 rfl).elim
  | _ => rfl

theorem evalExpr_static (declaring : Ty) (method : String) (types : List Ty) (a b : Expr)
    (type : Ty) :
    evalExpr bindings (.staticCall declaring method types [a, b] type) =
      (do
        let v ← evalExpr bindings a
        let w ← evalExpr bindings b
        Value.callStatic declaring method [v, w]) := by
  rw [evalExpr, evalAll, evalAll, evalAll]
  cases evalExpr bindings a with
  | error fault => rfl
  | ok v => cases evalExpr bindings b <;> rfl

theorem shows_strict {op : BinaryOp} {left right : Expr} (type : Ty) {x y : ℚ} {z : Exact}
    (hz : op.meaning? (.number x) (.number y) = some z)
    (hl : (Exact.number x).Shows (evalExpr bindings left))
    (hr : (Exact.number y).Shows (evalExpr bindings right)) :
    z.Shows (evalExpr bindings (.binary op left right type)) := by
  have ho : op ≠ .andAlso ∧ op ≠ .orElse ∧ op ≠ .coalesce := by
    refine ⟨?_, ?_, ?_⟩ <;> rintro rfl <;> cases hz
  rw [evalExpr_strict ho]
  exact hl.bind fun v hv => hr.bind fun w hw => Value.strict_shows hv hw hz

/-- Only the operand that decides is looked at, which is as good as both. -/
theorem shows_logical {op : BinaryOp} (ho : op = .andAlso ∨ op = .orElse) {left right : Expr}
    (type : Ty) {a b : Bool} {z : Exact} (hz : op.meaning? (.truth a) (.truth b) = some z)
    (hl : (Exact.truth a).Shows (evalExpr bindings left))
    (hr : (Exact.truth b).Shows (evalExpr bindings right)) :
    z.Shows (evalExpr bindings (.binary op left right type)) := by
  rcases ho with rfl | rfl
  · cases hz
    refine hl.bind fun v hv => ?_
    rw [Value.eq_bool_of_meaning? hv]
    cases a with
    | false => rfl
    | true => exact hr
  · cases hz
    refine hl.bind fun v hv => ?_
    rw [Value.eq_bool_of_meaning? hv]
    cases a with
    | false => exact hr
    | true => rfl

theorem shows_conditional {test ifTrue ifFalse : Expr} (type : Ty) {c : Bool} {x y : Exact}
    (ht : (Exact.truth c).Shows (evalExpr bindings test)) (ha : x.Shows (evalExpr bindings ifTrue))
    (hb : y.Shows (evalExpr bindings ifFalse)) :
    (if c then x else y).Shows (evalExpr bindings (.conditional test ifTrue ifFalse type)) := by
  refine ht.bind fun v hv => ?_
  rw [Value.eq_bool_of_meaning? hv]
  cases c with
  | false => exact hb
  | true => exact ha

theorem shows_extreme {method : String} (hm : method = "Min" ∨ method = "Max") {a b : Expr}
    (parameters types : List Ty) (type : Ty) {x y : ℚ}
    (ha : (Exact.number x).Shows (evalExpr bindings a))
    (hb : (Exact.number y).Shows (evalExpr bindings b)) :
    ∃ q, Exact.extreme? (.named "Math" parameters) method (.number x) (.number y) =
        some (.number q) ∧
      (Exact.number q).Shows
        (evalExpr bindings (.staticCall (.named "Math" parameters) method types [a, b] type)) := by
  rcases hm with rfl | rfl
  · refine ⟨min x y, by simp [Exact.extreme?], ?_⟩
    rw [evalExpr_static]
    exact ha.bind fun v hv => hb.bind fun w hw => Value.extreme_shows hv hw true
  · refine ⟨max x y, by simp [Exact.extreme?], ?_⟩
    rw [evalExpr_static]
    exact ha.bind fun v hv => hb.bind fun w hw => Value.extreme_shows hv hw false

theorem meaning?_binary {op : BinaryOp} {left right : Expr} (type : Ty) {x y : Exact}
    (hx : left.meaning? bindings = some x) (hy : right.meaning? bindings = some y) :
    meaning? bindings (.binary op left right type) = op.meaning? x y := by
  rw [meaning?, hx, hy]
  rfl

theorem Computes.exists_exact {k : Exact.Kind} {e : Expr} (h : Computes k e)
    (hn : e.NumbersIn bindings) :
    ∃ x, e.meaning? bindings = some x ∧ k.Admits x ∧ x.Shows (evalExpr bindings e) := by
  induction h with
  | parameter p =>
    obtain ⟨v, q, hp, hv⟩ := hn p (mem_nodes_self _)
    refine ⟨.number q, ?_, .number q, ?_⟩
    · rw [meaning?, hp]
      exact hv
    · rw [evalExpr, hp]
      exact hv
  | integer n captured ht => exact ⟨_, rfl, .number _, Literal.value_integer_shows n ht⟩
  | decimal d type captured => exact ⟨_, rfl, .number _, Literal.value_decimal_shows d type⟩
  | @arithmetic op left right type ho _ _ ihl ihr =>
    obtain ⟨_, hx, hkl, hl⟩ := ihl (hn.of_mem_parts (by simp [parts]))
    obtain ⟨_, hy, hkr, hr⟩ := ihr (hn.of_mem_parts (by simp [parts]))
    obtain ⟨x, rfl⟩ := hkl.exists_number
    obtain ⟨y, rfl⟩ := hkr.exists_number
    obtain ⟨q, hq⟩ : ∃ q, op.meaning? (.number x) (.number y) = some (.number q) := by
      rcases ho with rfl | rfl | rfl <;> exact ⟨_, rfl⟩
    exact ⟨_, (meaning?_binary type hx hy).trans hq, .number q, shows_strict type hq hl hr⟩
  | @comparison op left right type ho _ _ ihl ihr =>
    obtain ⟨_, hx, hkl, hl⟩ := ihl (hn.of_mem_parts (by simp [parts]))
    obtain ⟨_, hy, hkr, hr⟩ := ihr (hn.of_mem_parts (by simp [parts]))
    obtain ⟨x, rfl⟩ := hkl.exists_number
    obtain ⟨y, rfl⟩ := hkr.exists_number
    obtain ⟨b, hb⟩ : ∃ b, op.meaning? (.number x) (.number y) = some (.truth b) := by
      rcases ho with rfl | rfl | rfl | rfl <;> exact ⟨_, rfl⟩
    exact ⟨_, (meaning?_binary type hx hy).trans hb, .truth b, shows_strict type hb hl hr⟩
  | @logical op left right type ho _ _ ihl ihr =>
    obtain ⟨_, hx, hkl, hl⟩ := ihl (hn.of_mem_parts (by simp [parts]))
    obtain ⟨_, hy, hkr, hr⟩ := ihr (hn.of_mem_parts (by simp [parts]))
    obtain ⟨a, rfl⟩ := hkl.exists_truth
    obtain ⟨b, rfl⟩ := hkr.exists_truth
    obtain ⟨c, hc⟩ : ∃ c, op.meaning? (.truth a) (.truth b) = some (.truth c) := by
      rcases ho with rfl | rfl <;> exact ⟨_, rfl⟩
    exact ⟨_, (meaning?_binary type hx hy).trans hc, .truth c, shows_logical ho type hc hl hr⟩
  | extreme parameters types type hm _ _ iha ihb =>
    obtain ⟨_, hx, hka, ha⟩ := iha (hn.of_mem_parts (by simp [parts]))
    obtain ⟨_, hy, hkb, hb⟩ := ihb (hn.of_mem_parts (by simp [parts]))
    obtain ⟨x, rfl⟩ := hka.exists_number
    obtain ⟨y, rfl⟩ := hkb.exists_number
    obtain ⟨q, hq, hshows⟩ := shows_extreme hm parameters types type ha hb
    refine ⟨_, ?_, .number q, hshows⟩
    rw [meaning?, hx, hy]
    exact hq
  | conditional type _ _ _ iht iha ihb =>
    obtain ⟨_, hc, hkt, ht⟩ := iht (hn.of_mem_parts (by simp [parts]))
    obtain ⟨c, rfl⟩ := hkt.exists_truth
    obtain ⟨x, hx, hk, ha⟩ := iha (hn.of_mem_parts (by simp [parts]))
    obtain ⟨y, hy, hl, hb⟩ := ihb (hn.of_mem_parts (by simp [parts]))
    refine ⟨_, ?_, ?_, shows_conditional type ht ha hb⟩
    · rw [meaning?, hc, hx, hy]
      rfl
    · cases c with
      | false => exact hl.join_right _
      | true => exact hk.join_left _

end Expr

theorem evalExpr_computes_exactly (bindings : Bindings) (e : Expr) (k : Exact.Kind)
    (he : e.Computes k) (hn : e.NumbersIn bindings) :
    ∃ x, e.meaning? bindings = some x ∧
      (∀ v, evalExpr bindings e = .ok v → v.meaning? = some x) ∧
      ∀ fault, evalExpr bindings e = .error fault → fault.isLackOfRoom = true := by
  obtain ⟨x, hx, -, hshows⟩ := he.exists_exact hn
  refine ⟨x, hx, ?_, ?_⟩
  · intro v hv
    rwa [hv] at hshows
  · intro fault hf
    rwa [hf] at hshows

/-- A decimal between two whole numbers, negative as only one of them is. -/
theorem evalExpr_computes_exactly_negative :
    ∃ (e : Expr) (bindings : Bindings) (v : Value),
      e.Computes .number ∧ e.NumbersIn bindings ∧ evalExpr bindings e = .ok v ∧
      e.meaning? bindings = some (.number (-23 / 8)) ∧ v.meaning? = some (.number (-23 / 8)) := by
  let x : Expr := .parameter ⟨"x", .decimal⟩
  let rate : Expr := .constant (.decimal ⟨"1.15", by decide⟩) .decimal none
  let e : Expr :=
    .conditional (.binary .lessThan (.constant (.integer (-3)) .int none) x .bool)
      (.binary .multiply x rate .decimal)
      (.staticCall (.named "Math" []) "Min" [] [x, .constant (.integer 1) .long none] .decimal)
      .decimal
  let bindings : Bindings := [("x", .decimal ⟨-25, 1, by decide, by decide, by decide⟩)]
  let v : Value := .decimal ⟨-2875, 3, by decide, by decide, by decide⟩
  have he : e.Computes .number :=
    .conditional .decimal
      (.comparison .bool (.inl rfl) (.integer _ none (.inl rfl)) (.parameter _))
      (.arithmetic .decimal (.inr (.inr rfl)) (.parameter _) (.decimal _ _ none))
      (.extreme [] [] .decimal (.inl rfl) (.parameter _) (.integer _ none (.inr (.inl rfl))))
  have hn : e.NumbersIn bindings := by
    intro p hp
    obtain rfl : p = ⟨"x", .decimal⟩ := by
      simpa [e, x, rate, Expr.nodes, Expr.nodesOfAll] using hp
    exact ⟨_, _, rfl, rfl⟩
  have heval : evalExpr bindings e = .ok v := rfl
  have hv : v.meaning? = some (.number (-23 / 8)) := by
    norm_num [v, Value.meaning?, Decimal.number]
  obtain ⟨q, hq, hexact, -⟩ := evalExpr_computes_exactly bindings e .number he hn
  refine ⟨e, bindings, v, he, hn, heval, ?_, hv⟩
  rw [hq, ← hexact v heval, hv]

end Legible
