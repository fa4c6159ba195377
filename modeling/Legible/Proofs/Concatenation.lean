import Legible.Proofs.ExactEvaluation
import Legible.Proofs.LiteralText
import Legible.Proofs.OperatorTable

/-!
# Concatenations and sums

A concatenation is written as the sum of its operands. Its value is the text of all of them, while a
sum of values becomes text only once it meets a string: a null where a string was declared makes it
null, and whatever was added before the first string is lost. The two agree unless that happens.
-/

namespace Legible

/-- Operands added up from the left; `result` gives each sum its type. -/
def Expr.sum (result : Expr → Expr → Ty) (first : Expr) (rest : List Expr) : Expr :=
  rest.foldl (fun left right => .binary .add left right (result left right)) first

theorem Expr.exists_of_isConcatenation {declaring type : Ty} {method : String} {types : List Ty}
    {first : Expr} {rest : List Expr}
    (h : (Expr.staticCall declaring method types (first :: rest) type).isConcatenation = true) :
    ∃ second more, rest = second :: more ∧ (first.type = .string ∨ second.type = .string) := by
  cases rest with
  | nil => simp [isConcatenation] at h
  | cons second more =>
    simp only [isConcatenation, Bool.and_eq_true, List.any_eq_true, List.take_succ_cons] at h
    obtain ⟨a, ha, hs⟩ := h.2
    have htype : a.type = .string := by simpa using hs
    have ha : a = first ∨ a = second := by simpa using ha
    refine ⟨second, more, rfl, ?_⟩
    rcases ha with rfl | rfl
    · exact .inl htype
    · exact .inr htype

/-! ## The texts -/

theorem BinaryOp.check_add_string {left right : Ty} (h : left = .string ∨ right = .string) :
    BinaryOp.add.check left right .string = .ok () := by
  have hstring : (left == .string || right == .string) = true := by
    rcases h with rfl | rfl <;> simp
  simp only [check, isComparison, isLogical, check.applies, Bool.or_assoc, hstring, Bool.or_true]
  rfl

theorem write_add_string (style : Style) {left right : Expr}
    (h : left.type = .string ∨ right.type = .string) (page : Page) :
    write style (.binary .add left right .string) page =
      (do
        let page ← page.writeOperand style .concatenation .left left (write style left)
        writeMoreSum style [right] page) := by
  have htokens (page : Page) : ((page.token " ").token "+").token " " = page.token " + " := by
    rw [Page.token_token, Page.token_token]
    rfl
  simp only [write, BinaryOp.check_add_string h, BinaryOp.symbol, htokens, writeMoreSum]
  change (do
    let page ← page.writeOperand style .concatenation .left left (write style left)
    (page.token " + ").writeOperand style .concatenation .right right (write style right)) = _
  congr 1
  funext page
  exact (bind_pure _).symm

/-- A sum of strings is written like the concatenation of its operands. -/
theorem write_sum (style : Style) {first second : Expr} (rest : List Expr)
    (h : first.type = .string ∨ second.type = .string) (page : Page) :
    write style (.sum (fun _ _ => .string) first (second :: rest)) page =
      writeSum style (first :: second :: rest) page := by
  induction rest generalizing first second page with
  | nil => exact write_add_string style h page
  | cons third rest ih =>
    -- the sum of the first two stands bare, as the first operand of the sum of the others
    have hbare : style.groups .concatenation .left (.binary .add first second .string) = false :=
      rfl
    calc
      write style (.sum (fun _ _ => .string) first (second :: third :: rest)) page
        = writeSum style (.binary .add first second .string :: third :: rest) page :=
          ih (.inl rfl) page
      _ = (write style (.binary .add first second .string) page >>=
            writeMoreSum style (third :: rest)) := by
          rw [writeSum, Page.writeOperand_eq, hbare]
          rfl
      _ = writeSum style (first :: second :: third :: rest) page := by
          rw [write_add_string style h, bind_assoc, writeSum]
          congr 1
          funext page
          simp only [writeMoreSum, bind_assoc]
          rfl

theorem render_sum (style : Style) {first : Expr} {rest : List Expr} {types : List Ty} {type : Ty}
    (h : (Expr.staticCall .string "Concat" types (first :: rest) type).isConcatenation = true) :
    render style (.staticCall .string "Concat" types (first :: rest) type) =
      render style (.sum (fun _ _ => .string) first rest) := by
  obtain ⟨second, more, rfl, hstring⟩ := Expr.exists_of_isConcatenation h
  simp only [render, write_sum style more hstring, write, h, if_true]

/-! ## The values -/

namespace Value

def texts (vs : List Value) : String := String.join (vs.map asText)

/-- The texts from the first string on, and null if there is none. -/
def fromFirstString : List Value → Value
  | [] => .null
  | .string s :: rest => .string (s ++ texts rest)
  | _ :: rest => fromFirstString rest

/-- The sum of values of which one of the first two is a string or null. -/
def sum (vs : List Value) : Value :=
  if (vs.take 2).any isString then .string (texts vs) else fromFirstString vs

theorem texts_cons (v : Value) (rest : List Value) :
    texts (v :: rest) = v.asText ++ texts rest := by
  simp [texts]

theorem exists_of_isString {v : Value} (h : v.isString = true) : ∃ s, v = .string s := by
  cases v <;> cases h
  exact ⟨_, rfl⟩

theorem eq_null_of_isNull {v : Value} (h : v.isNull = true) : v = .null := by
  cases v <;> cases h
  rfl

theorem fromFirstString_cons {v : Value} (h : v.isString = false) (rest : List Value) :
    fromFirstString (v :: rest) = fromFirstString rest := by
  cases v with
  | string s => cases h
  | _ => rfl

theorem strict_add_of_string {v w : Value} (h : v.isString = true ∨ w.isString = true) :
    strict .add v w = .ok (.string (v.asText ++ w.asText)) := by
  have hany : (v.isString || w.isString) = true := by simpa using h
  simp only [strict, hany, if_true]

theorem strict_add_of_null {v w : Value} (hv : v.isString = false) (hw : w.isString = false)
    (h : v.isNull = true ∨ w.isNull = true) : strict .add v w = .ok .null := by
  have hnull : (v.isNull || w.isNull) = true := by simpa using h
  simp [strict, hv, hw, arithmetic, hnull]

end Value

section Evaluation

variable (bindings : Bindings)

def addOperand (sum : Value) (e : Expr) : Except EvalError Value := do
  let v ← evalExpr bindings e
  Value.strict .add sum v

theorem evalExpr_sum (result : Expr → Expr → Ty) (first : Expr) (rest : List Expr) :
    evalExpr bindings (.sum result first rest) =
      evalExpr bindings first >>= fun v => rest.foldlM (addOperand bindings) v := by
  induction rest generalizing first with
  | nil => exact (bind_pure _).symm
  | cons e rest ih =>
    have hadd : evalExpr bindings (.binary .add first e (result first e)) =
        evalExpr bindings first >>= fun v => addOperand bindings v e :=
      Expr.evalExpr_strict (by simp) first e _
    change evalExpr bindings (.sum result (.binary .add first e (result first e)) rest) = _
    rw [ih, hadd, bind_assoc]
    simp only [List.foldlM_cons]

theorem evalAll_cons_map {α : Type} (e : Expr) (rest : List Expr) (f : List Value → α) :
    (evalAll bindings (e :: rest)).map f =
      evalExpr bindings e >>= fun v => (evalAll bindings rest).map fun vs => f (v :: vs) := by
  rw [evalAll]
  cases evalExpr bindings e with
  | error fault => rfl
  | ok v => cases evalAll bindings rest <;> rfl

theorem foldlM_addOperand_cons (sum : Value) (e : Expr) (rest : List Expr) :
    (e :: rest).foldlM (addOperand bindings) sum =
      evalExpr bindings e >>= fun v =>
        Value.strict .add sum v >>= rest.foldlM (addOperand bindings) := by
  rw [List.foldlM_cons, addOperand, bind_assoc]

/-- Once the sum is a string, every further operand adds its text. -/
theorem foldlM_addOperand_string (s : String) (rest : List Expr) :
    rest.foldlM (addOperand bindings) (.string s) =
      (evalAll bindings rest).map fun vs => .string (s ++ Value.texts vs) := by
  induction rest generalizing s with
  | nil =>
    change Except.ok _ = Except.ok _
    simp [Value.texts]
  | cons e rest ih =>
    rw [foldlM_addOperand_cons, evalAll_cons_map]
    congr 1
    funext v
    rw [Value.strict_add_of_string (.inl rfl)]
    change rest.foldlM (addOperand bindings) (.string (s ++ v.asText)) = _
    simp only [ih, Value.texts_cons, String.append_assoc]

/-- As long as the sum is null, operands are passed over up to the first string. -/
theorem foldlM_addOperand_null (rest : List Expr) :
    rest.foldlM (addOperand bindings) .null =
      (evalAll bindings rest).map Value.fromFirstString := by
  induction rest with
  | nil => rfl
  | cons e rest ih =>
    rw [foldlM_addOperand_cons, evalAll_cons_map]
    congr 1
    funext v
    cases hv : v.isString with
    | true =>
      obtain ⟨s, rfl⟩ := Value.exists_of_isString hv
      rw [Value.strict_add_of_string (.inr rfl)]
      change rest.foldlM (addOperand bindings) (.string ("" ++ s)) = _
      simp only [foldlM_addOperand_string, String.empty_append, Value.fromFirstString]
    | false =>
      rw [Value.strict_add_of_null rfl hv (.inl rfl)]
      change rest.foldlM (addOperand bindings) .null = _
      simp only [ih, Value.fromFirstString_cons hv]

theorem evalExpr_concatenation (types : List Ty) (arguments : List Expr) (type : Ty) :
    evalExpr bindings (.staticCall .string "Concat" types arguments type) =
      (evalAll bindings arguments).map fun vs => .string (Value.texts vs) := by
  rw [evalExpr]
  cases evalAll bindings arguments <;> rfl

/-- A sum in which one of the first two operands is a string or null never fails by itself. -/
theorem evalExpr_sum_of_text (result : Expr → Expr → Ty) (first second : Expr) (rest : List Expr)
    (h : ∀ v w, evalExpr bindings first = .ok v → evalExpr bindings second = .ok w →
      v.isString = true ∨ v.isNull = true ∨ w.isString = true ∨ w.isNull = true) :
    evalExpr bindings (.sum result first (second :: rest)) =
      (evalAll bindings (first :: second :: rest)).map Value.sum := by
  rw [evalExpr_sum, evalAll_cons_map]
  cases hv : evalExpr bindings first with
  | error fault => rfl
  | ok v =>
    change (second :: rest).foldlM (addOperand bindings) v =
      (evalAll bindings (second :: rest)).map fun vs => Value.sum (v :: vs)
    rw [foldlM_addOperand_cons, evalAll_cons_map]
    cases hw : evalExpr bindings second with
    | error fault => rfl
    | ok w =>
      change (Value.strict .add v w >>= rest.foldlM (addOperand bindings)) =
        (evalAll bindings rest).map fun vs => Value.sum (v :: w :: vs)
      by_cases hstring : v.isString = true ∨ w.isString = true
      · have hany : ∀ vs : List Value, ((v :: w :: vs).take 2).any Value.isString = true := by
          simpa using hstring
        rw [Value.strict_add_of_string hstring]
        change rest.foldlM (addOperand bindings) (.string (v.asText ++ w.asText)) = _
        simp only [foldlM_addOperand_string, Value.sum, hany, if_true, Value.texts_cons,
          String.append_assoc]
      · obtain ⟨hv', hw'⟩ : v.isString = false ∧ w.isString = false := by
          simpa [not_or] using hstring
        have hnull : v.isNull = true ∨ w.isNull = true := by
          simpa [hv', hw'] using h v w hv hw
        rw [Value.strict_add_of_null hv' hw' hnull]
        change rest.foldlM (addOperand bindings) .null = _
        simp [foldlM_addOperand_null, Value.sum, hv', hw', Value.fromFirstString_cons]

end Evaluation

/-! ## Where they differ -/

theorem ofList_ne_empty {cs : List Char} (h : cs ≠ []) : String.ofList cs ≠ "" := by
  intro hs
  apply h
  simpa using congrArg String.toList hs

theorem Number.layPositional_ne_nil (pointZero : Bool) (d : Digits) :
    layPositional pointZero d ≠ [] := by
  unfold layPositional
  split
  · simp
  · rename_i hpoint
    dsimp only
    split
    · intro h
      obtain ⟨⟨hdigits, hzeros⟩, -⟩ :
          (d.digits = [] ∧ zeros (d.point.toNat - d.digits.length) = []) ∧
            (if pointZero then ['.', '0'] else []) = [] := by
        simpa only [List.append_eq_nil_iff] using h
      rw [hdigits, zeros, List.replicate_eq_nil_iff, List.length_nil] at hzeros
      omega
    · simp

theorem Number.display_ne_empty (x : Float) : display x ≠ "" := by
  unfold display
  split
  · decide
  · split
    · split <;> decide
    · apply ofList_ne_empty
      split
      · split
        · simp
        · exact layPositional_ne_nil _ _
      · simp

theorem Decimal.text_ne_empty (d : Decimal) : d.text ≠ "" := by
  apply ofList_ne_empty
  split
  · simp
  · split
    · intro h
      have hlength := congrArg List.length h
      simp only [List.length_take, List.length_append, List.length_replicate, List.length_nil]
        at hlength
      omega
    · simp

namespace Value

theorem asText_ne_empty {v : Value} (hs : v.isString = false) (hn : v.isNull = false) :
    v.asText ≠ "" := by
  cases v with
  | null => cases hn
  | bool b => cases b <;> decide
  | int n => exact toString_int_ne_empty n.toInt
  | decimal d => exact d.text_ne_empty
  | double x => exact Number.display_ne_empty x
  | char c =>
    change c.toString ≠ ""
    simp
  | string s => cases hs
  | record fields =>
    intro h
    have hlength := congrArg String.length h
    simp [asText, display] at hlength

theorem length_le_of_fromFirstString {vs : List Value} {t : String}
    (h : fromFirstString vs = .string t) : t.length ≤ (texts vs).length := by
  induction vs with
  | nil => cases h
  | cons v rest ih =>
    cases hv : v.isString with
    | true =>
      obtain ⟨s, rfl⟩ := exists_of_isString hv
      cases h
      rw [texts_cons]
      exact Nat.le_refl _
    | false =>
      rw [fromFirstString_cons hv] at h
      rw [texts_cons, String.length_append]
      exact Nat.le_trans (ih h) (Nat.le_add_left _ _)

/-- Nothing is lost in front of the first string only if there are but nulls. -/
theorem fromFirstString_eq_texts_iff (vs : List Value) :
    fromFirstString vs = .string (texts vs) ↔
      ∃ nulls s later, vs = nulls ++ .string s :: later ∧ ∀ v ∈ nulls, v.isNull = true := by
  induction vs with
  | nil => simp [fromFirstString]
  | cons v rest ih =>
    cases hs : v.isString with
    | true =>
      obtain ⟨s, rfl⟩ := exists_of_isString hs
      rw [texts_cons]
      exact ⟨fun _ => ⟨[], s, rest, rfl, List.forall_mem_nil _⟩, fun _ => rfl⟩
    | false =>
      rw [fromFirstString_cons hs, texts_cons]
      cases hn : v.isNull with
      | true =>
        obtain rfl := eq_null_of_isNull hn
        rw [show asText .null = "" from rfl, String.empty_append, ih]
        constructor
        · rintro ⟨nulls, s, later, rfl, hnulls⟩
          exact ⟨.null :: nulls, s, later, rfl, List.forall_mem_cons.mpr ⟨rfl, hnulls⟩⟩
        · rintro ⟨nulls, s, later, heq, hnulls⟩
          cases nulls with
          | nil => cases heq
          | cons w nulls =>
            cases heq
            exact ⟨nulls, s, later, rfl, (List.forall_mem_cons.mp hnulls).2⟩
      | false =>
        constructor
        · intro h
          have hle := length_le_of_fromFirstString h
          have hpos : v.asText.length ≠ 0 := by simpa using asText_ne_empty hs hn
          rw [String.length_append] at hle
          omega
        · rintro ⟨nulls, s, later, heq, hnulls⟩
          cases nulls with
          | nil => cases heq; cases hs
          | cons w nulls =>
            cases heq
            rw [hnulls v List.mem_cons_self] at hn
            cases hn

theorem sum_eq_texts_iff (vs : List Value) :
    sum vs = .string (texts vs) ↔
      (∃ v ∈ vs.take 2, v.isString = true) ∨
        ∃ nulls s later, vs = nulls ++ .string s :: later ∧ ∀ v ∈ nulls, v.isNull = true := by
  rw [← fromFirstString_eq_texts_iff, ← List.any_eq_true, sum]
  by_cases h : (vs.take 2).any isString = true
  · simp [h]
  · simp [h]

end Value

/-- A concatenation reads like the sum of its operands, and both give the same result unless a null
stands where a string was declared: then the sum forgets what was added before its first string. -/
theorem concatenation_eq_sum_iff (bindings : Bindings) (types : List Ty) (type : Ty)
    (result : Expr → Expr → Ty) (first : Expr) (rest : List Expr)
    (hc : (Expr.staticCall .string "Concat" types (first :: rest) type).isConcatenation = true)
    (hs : ∀ a ∈ first :: rest, a.type = .string →
      ∀ v, evalExpr bindings a = .ok v → v.isString = true ∨ v.isNull = true) :
    (∀ style, render style (.staticCall .string "Concat" types (first :: rest) type) =
      render style (.sum (fun _ _ => .string) first rest)) ∧
    (evalExpr bindings (.staticCall .string "Concat" types (first :: rest) type) =
        evalExpr bindings (.sum result first rest) ↔
      ∀ vs, evalAll bindings (first :: rest) = .ok vs →
        (∃ v ∈ vs.take 2, v.isString = true) ∨
          ∃ nulls s later, vs = nulls ++ .string s :: later ∧ ∀ v ∈ nulls, v.isNull = true) := by
  refine ⟨fun style => render_sum style hc, ?_⟩
  obtain ⟨second, more, rfl, hstring⟩ := Expr.exists_of_isConcatenation hc
  have htext : ∀ v w, evalExpr bindings first = .ok v → evalExpr bindings second = .ok w →
      v.isString = true ∨ v.isNull = true ∨ w.isString = true ∨ w.isNull = true := by
    intro v w hv hw
    rcases hstring with hfirst | hsecond
    · have := hs first (by simp) hfirst v hv
      tauto
    · have := hs second (by simp) hsecond w hw
      tauto
  rw [evalExpr_concatenation, evalExpr_sum_of_text bindings result first second more htext]
  cases evalAll bindings (first :: second :: more) with
  | error fault => simp [Except.map]
  | ok vs =>
    simp only [Except.map, Except.ok.injEq, forall_eq', ← Value.sum_eq_texts_iff]
    exact eq_comm

/-- A null in front of the first string adds nothing either way. -/
theorem concatenation_eq_sum_iff_null_first :
    let s : Expr := .parameter ⟨"s", .string⟩
    let t : Expr := .parameter ⟨"t", .string⟩
    let seven : Expr := .constant (.integer 7) .int none
    let concatenation : Expr := .staticCall .string "Concat" [] [s, t, seven] .string
    let bindings : Bindings := [("s", .null), ("t", .string "a")]
    concatenation.isConcatenation = true ∧
      evalExpr bindings concatenation =
        evalExpr bindings (.sum (fun left _ => left.type) s [t, seven]) ∧
      evalExpr bindings concatenation = .ok (.string "a7") ∧
      render {} concatenation = render {} (.sum (fun _ _ => .string) s [t, seven]) := by
  intro s t seven concatenation bindings
  have hs : ∀ a ∈ [s, t, seven], a.type = .string →
      ∀ v, evalExpr bindings a = .ok v → v.isString = true ∨ v.isNull = true := by
    intro a ha htype v hv
    simp only [List.mem_cons, List.not_mem_nil, or_false] at ha
    rcases ha with rfl | rfl | rfl
    · cases hv
      exact .inr rfl
    · cases hv
      exact .inl rfl
    · cases htype
  obtain ⟨hrender, heval⟩ := concatenation_eq_sum_iff bindings [] .string
    (fun left _ => left.type) s [t, seven] rfl hs
  refine ⟨rfl, heval.mpr ?_, rfl, hrender {}⟩
  intro vs hvs
  cases hvs
  exact .inl ⟨.string "a", by simp, rfl⟩

/-- A null string and a number: the concatenation is the number's text, the sum is null. -/
theorem null_string_plus_number_is_null :
    let s : Expr := .parameter ⟨"s", .string⟩
    let five : Expr := .constant (.integer 5) .int none
    let bindings : Bindings := [("s", .null)]
    (Expr.staticCall .string "Concat" [] [s, five] .string).isConcatenation = true ∧
      evalExpr bindings s = .ok .null ∧
      evalExpr bindings (.staticCall .string "Concat" [] [s, five] .string) = .ok (.string "5") ∧
      evalExpr bindings (.binary .add s five .string) = .ok .null :=
  ⟨rfl, rfl, rfl, rfl⟩

end Legible
