import Legible.Proofs.Concatenation
import Legible.Proofs.DecimalArithmetic
import Legible.Proofs.OperandTypes
import Legible.Proofs.SubstringBounds
import Legible.Sample

/-!
# What the sample trees compute

Each sample tree is followed through the evaluator for any person. The two trees over texts always
have a value, for a guard stands before every step that could fail. The raise has one exactly where
the product of its own tier is a decimal, whatever stands in the other tiers.
-/

namespace Legible

/-! ## Records -/

namespace Value

theorem lookup_cons_ite (key name : String) (value : Value) (fields : List (String × Value)) :
    ((name, value) :: fields).lookup key =
      if key = name then some value else fields.lookup key := by
  rw [List.lookup_cons]
  by_cases h : key = name
  · rw [if_pos h, beq_iff_eq.mpr h]
  · rw [if_neg h, beq_eq_false_iff_ne.mpr h]

theorem lookup_insertField (name : String) (value : Value) (fields : List (String × Value))
    (key : String) :
    (insertField name value fields).lookup key =
      if key = name then some value else fields.lookup key := by
  induction fields with
  | nil => exact lookup_cons_ite key name value []
  | cons field rest ih =>
    obtain ⟨n, v⟩ := field
    rw [insertField]
    split
    · subst n
      rw [lookup_cons_ite, lookup_cons_ite]
      split <;> rfl
    · rename_i hne
      split
      · exact lookup_cons_ite key name value _
      · rw [lookup_cons_ite, lookup_cons_ite, ih]
        by_cases hn : key = n
        · rw [if_pos hn, if_neg fun h => hne (h.symm.trans hn), if_pos hn]
        · rw [if_neg hn, if_neg hn]

/-- Of two fields with one name a record holds the later. -/
theorem member_ofFields (fields : List (String × Value)) {name : String} {value : Value}
    (h : fields.reverse.lookup name = some value) : (ofFields fields).member name = .ok value := by
  have hfold (given sorted : List (String × Value)) :
      (given.foldl (fun sorted field => insertField field.1 field.2 sorted) sorted).lookup name =
        (given.reverse.lookup name).or (sorted.lookup name) := by
    induction given generalizing sorted with
    | nil => rfl
    | cons field rest ih =>
      rw [List.foldl_cons, ih, lookup_insertField, List.reverse_cons, List.lookup_append,
        Option.or_assoc, lookup_cons_ite]
      split <;> rfl
  have hrecord : ofFields fields =
      .record (fields.foldl (fun sorted field => insertField field.1 field.2 sorted) []) := rfl
  rw [hrecord, member, hfold, h]
  rfl

end Value

/-! ## Texts -/

/-- No text in memory has more bytes than a signed word counts. -/
def Text.InMemory (s : String) : Prop := s.utf8ByteSize < 2 ^ 63

instance (s : String) : Decidable (Text.InMemory s) := inferInstanceAs (Decidable (_ < _))

theorem Text.InMemory.toInt_length {s : String} (h : InMemory s) :
    (Int64.ofInt s.toList.length).toInt = s.toList.length := by
  have hbytes : s.toList.length ≤ s.utf8ByteSize := by
    rw [← String.utf8Len_toList]
    induction s.toList with
    | nil => rfl
    | cons c cs ih =>
      rw [List.length_cons, String.utf8Len_cons]
      have := c.utf8Size_pos
      omega
  unfold InMemory at h
  apply Int64.toInt_ofInt_of_le <;> omega

section Texts

variable {bindings : Bindings} {e : Expr} {s : String}

/-- Upper case, lower case and trimming. -/
theorem evalExpr_textMethod {name : String} {v : Value} (declaring type : Ty)
    (he : evalExpr bindings e = .ok (.string s))
    (hv : Value.callString s name [] = some (.ok v)) :
    evalExpr bindings (.method e name declaring [] type) = .ok v := by
  rw [Expr.method, evalExpr, evalAll, he]
  change (Value.callString s name []).getD _ = .ok v
  rw [hv]
  rfl

theorem evalExpr_length (type : Ty) (he : evalExpr bindings e = .ok (.string s)) :
    evalExpr bindings (.property e "Length" type) =
      .ok (.int (Int64.ofInt s.toList.length)) := by
  rw [evalExpr, he]
  rfl

end Texts

theorem evalExpr_condition {bindings : Bindings} {test : Expr} {b : Bool} (ifTrue ifFalse : Expr)
    (htest : evalExpr bindings test = .ok (.bool b)) :
    evalExpr bindings (.condition test ifTrue ifFalse) =
      if b then evalExpr bindings ifTrue else evalExpr bindings ifFalse := by
  rw [Expr.condition, evalExpr, htest]
  rfl

theorem Value.extreme_int (a b : Int64) :
    extreme true (.int a) (.int b) = .ok (.int (if a.toInt ≤ b.toInt then a else b)) := by
  change Except.ok (if true == (Ord.compare a.toInt b.toInt != .gt) then Value.int a else .int b) = _
  by_cases h : a.toInt ≤ b.toInt
  · rw [if_pos h, if_pos]
    simpa [Int.compare_eq_gt] using h
  · rw [if_neg h, if_neg]
    simpa [Int.compare_eq_gt] using h

theorem Value.strict_lessThan_int (a b : Int64) :
    strict .lessThan (.int a) (.int b) = .ok (.bool (decide (a.toInt < b.toInt))) := by
  change Except.ok (Value.bool (some (Ord.compare a.toInt b.toInt) == some .lt)) = _
  congr 2
  rw [Bool.eq_iff_iff]
  simp [Int.compare_eq_lt]

theorem Value.strict_greaterThan_int (a b : Int64) :
    strict .greaterThan (.int a) (.int b) = .ok (.bool (decide (b.toInt < a.toInt))) := by
  change Except.ok (Value.bool (some (Ord.compare a.toInt b.toInt) == some .gt)) = _
  congr 2
  rw [Bool.eq_iff_iff]
  simp [Int.compare_eq_gt]

namespace Sample

def scope (p : Person) : Bindings := [("p", p.toValue)]

theorem evalExpr_personProperty {p : Person} {name : String} {value : Value} (type : Ty)
    (h : p.fields.reverse.lookup name = some value) :
    evalExpr (scope p) (personProperty name type) = .ok value := by
  change p.toValue.member name = .ok value
  exact Value.member_ofFields p.fields h

theorem evalExpr_personCity (p : Person) :
    evalExpr (scope p) personCity = .ok (p.city.elim .null .string) :=
  evalExpr_personProperty .string rfl

theorem evalExpr_personLastName (p : Person) :
    evalExpr (scope p) personLastName = .ok (.string p.lastName) :=
  evalExpr_personProperty .string rfl

/-! ### The city and the name -/

theorem evalExpr_shownCity (p : Person) :
    evalExpr (scope p) shownCity =
      .ok (.string (Text.trim (Text.upper (p.city.getD "Unknown")))) := by
  have hcity : evalExpr (scope p) (.coalesce personCity (text "Unknown")) =
      .ok (.string (p.city.getD "Unknown")) := by
    rw [Expr.coalesce, evalExpr, evalExpr_personCity]
    cases p.city <;> rfl
  exact evalExpr_textMethod .string .string (evalExpr_textMethod .string .string hcity rfl) rfl

theorem evalExpr_initials {p : Person} (hp : Text.InMemory p.lastName) :
    evalExpr (scope p) initials =
      .ok (.string (Value.slice p.lastName 0 (min 3 p.lastName.toList.length))) := by
  have hname := evalExpr_personLastName p
  have hcount : evalExpr (scope p) initialCount = .ok (.int
      (if 3 ≤ (Int64.ofInt p.lastName.toList.length).toInt then 3
        else Int64.ofInt p.lastName.toList.length)) := by
    rw [initialCount, Expr.staticMethod, Expr.evalExpr_static, evalExpr_length .int hname]
    exact Value.extreme_int 3 _
  rw [initials, textMethod, Expr.method, evalExpr_substring .string [] .string hname rfl hcount]
  have htoInt := hp.toInt_length
  generalize Int64.ofInt p.lastName.toList.length = n at htoInt ⊢
  by_cases h : 3 ≤ n.toInt
  · have hmin : min 3 p.lastName.toList.length = 3 := by omega
    rw [if_pos h, hmin]
    apply Value.substring_of_within
    refine ⟨by decide, by decide, ?_⟩
    rw [← htoInt]
    exact h
  · have hmin : min 3 p.lastName.toList.length = n.toInt.toNat := by omega
    rw [if_neg h, hmin]
    apply Value.substring_of_within
    refine ⟨by decide, by omega, ?_⟩
    change 0 + n.toInt ≤ _
    omega

def cityInitial : Option String → String
  | none => "unknown"
  | some city =>
    match city.toList with
    | [] => "unknown"
    | c :: _ => Text.lower c.toString

theorem evalExpr_hasCity {p : Person} (hp : ∀ city ∈ p.city, Text.InMemory city) :
    evalExpr (scope p) hasCity = .ok (.bool (p.city.any fun city => !city.toList.isEmpty)) := by
  have hcity := evalExpr_personCity p
  have hnull : evalExpr (scope p) (.null .string) = .ok .null := rfl
  have hnotNull : evalExpr (scope p) (.notEqual personCity (.null .string)) =
      .ok (.bool p.city.isSome) := by
    refine (evalExpr_strict_of_ok (by decide) .bool hcity hnull).trans ?_
    cases p.city <;> rfl
  refine (evalExpr_logical rfl _ .bool hnotNull).trans ?_
  cases hsome : p.city with
  | none => rfl
  | some city =>
    rw [hsome] at hcity
    have hlength := evalExpr_length .int hcity
    have hzero : evalExpr (scope p) (int 0) = .ok (.int 0) := rfl
    change evalExpr (scope p) (.greaterThan _ _) = _
    refine (evalExpr_strict_of_ok (by decide) .bool hlength hzero).trans ?_
    rw [Value.strict_greaterThan_int, (hp city hsome).toInt_length]
    change _ = Except.ok (Value.bool (!city.toList.isEmpty))
    cases city.toList with
    | nil => rfl
    | cons c cs =>
      have hpos : (0 : Int64).toInt < ((c :: cs).length : Int) := Int.natCast_pos.mpr (by simp)
      rw [decide_eq_true hpos]
      rfl

theorem evalExpr_firstLetter {p : Person} {city : String} {c : Char} {cs : List Char}
    (hsome : p.city = some city) (hcs : city.toList = c :: cs) :
    evalExpr (scope p) firstLetter = .ok (.string (Text.lower c.toString)) := by
  have hindex : evalExpr (scope p) (.index personCity [int 0] .char) =
      .ok (.char c) := by
    rw [evalExpr, evalExpr_personCity, hsome]
    change Value.charAt (.string city) 0 = .ok (.char c)
    rw [Value.charAt, hcs]
    rfl
  have htext : evalExpr (scope p) (.method (.index personCity [int 0] .char)
      "ToString" .char [] .string) = .ok (.string c.toString) := by
    rw [Expr.method, evalExpr, evalAll, hindex]
    rfl
  exact evalExpr_textMethod .string .string htext rfl

end Sample

theorem sample_texts_never_fail (p : Person) (hname : Text.InMemory p.lastName)
    (hcity : ∀ city ∈ p.city, Text.InMemory city) :
    evaluate Sample.strings [p.toValue] =
      .ok (.string (Text.trim (Text.upper (p.city.getD "Unknown")) ++ " - " ++
        String.ofList (p.lastName.toList.take (min 3 p.lastName.toList.length)))) ∧
    evaluate Sample.nullSafe [p.toValue] = .ok (.string (Sample.cityInitial p.city)) := by
  constructor
  · change evalExpr (Sample.scope p) (.staticCall .string "Concat" []
      [Sample.shownCity, Sample.text " - ", Sample.initials] .string) = _
    have hdash : evalExpr (Sample.scope p) (Sample.text " - ") = .ok (.string " - ") := rfl
    rw [evalExpr_concatenation, evalAll, evalAll, evalAll, evalAll, Sample.evalExpr_shownCity,
      hdash, Sample.evalExpr_initials hname]
    change Except.ok (Value.string (Value.texts [.string _, .string " - ", .string _])) = _
    simp [Value.texts, Value.asText, Value.display, Value.slice, String.append_assoc]
  · change evalExpr (Sample.scope p) (.condition Sample.hasCity Sample.firstLetter
      (Sample.text "unknown")) = _
    rw [evalExpr_condition _ _ (Sample.evalExpr_hasCity hcity)]
    cases hsome : p.city with
    | none => rfl
    | some city =>
      rw [Option.any_some, Sample.cityInitial]
      cases hcs : city.toList with
      | nil => rfl
      | cons c cs => exact Sample.evalExpr_firstLetter hsome hcs

/-- An empty city and a last name of two letters. -/
theorem sample_texts_never_fail_short :
    let p : Person := ⟨"Ada", "Bö", 36, some "", .zero, true⟩
    (Text.InMemory p.lastName ∧ ∀ city ∈ p.city, Text.InMemory city) ∧
      evaluate Sample.strings [p.toValue] = .ok (.string " - Bö") ∧
      evaluate Sample.nullSafe [p.toValue] = .ok (.string "unknown") := by
  intro p
  have hname : Text.InMemory p.lastName := by decide
  have hcity : ∀ city ∈ p.city, Text.InMemory city := by
    rintro city ⟨⟩
    decide
  obtain ⟨hstrings, hnullSafe⟩ := sample_texts_never_fail p hname hcity
  have htext : Text.trim (Text.upper (p.city.getD "Unknown")) ++ " - " ++
      String.ofList (p.lastName.toList.take (min 3 p.lastName.toList.length)) = " - Bö" := by
    decide
  exact ⟨⟨hname, hcity⟩, htext ▸ hstrings, hnullSafe⟩

/-! ## The raise -/

namespace Sample

def tier {α : Type} (age : Int32) (young middle old : α) : α :=
  if age.toInt < 30 then young else if age.toInt < 50 then middle else old

theorem evalExpr_ageBelow (p : Person) (limit : Int64) :
    evalExpr (scope p) (ageBelow limit) = .ok (.bool (decide (p.age.toInt < limit.toInt))) := by
  have hage : evalExpr (scope p) (personProperty "Age" .int) =
      .ok (.int (Int64.ofInt p.age.toInt)) := evalExpr_personProperty .int rfl
  have hlimit : evalExpr (scope p) (int limit) = .ok (.int limit) := rfl
  have hlow := p.age.le_toInt
  have hhigh := p.age.toInt_lt
  have hword : (Int64.ofInt p.age.toInt).toInt = p.age.toInt := by
    apply Int64.toInt_ofInt_of_le <;> omega
  refine (evalExpr_strict_of_ok (by decide) .bool hage hlimit).trans ?_
  rw [Value.strict_lessThan_int, hword]

theorem evaluate_byAge (p : Person) (young middle old : Expr) :
    evaluate (byAge young middle old) [p.toValue] =
      evalExpr (scope p) (tier p.age young middle old) := by
  change evalExpr (scope p) (.condition (ageBelow 30) young (.condition (ageBelow 50) middle old)) = _
  rw [evalExpr_condition _ _ (evalExpr_ageBelow p 30),
    evalExpr_condition _ _ (evalExpr_ageBelow p 50), tier, apply_ite (evalExpr (scope p)),
    apply_ite (evalExpr (scope p))]
  simp only [decide_eq_true_eq]
  rfl

open Decimal (InWord)

/-- The outcome of raising a salary by a rate of `r` hundredths. -/
structure RaisedBy (salary : Decimal) (r : Int) (outcome : Except EvalError Value) : Prop where
  raised : InWord (salary.mantissa * r) → salary.scale + 2 ≤ 28 →
    ∃ d, outcome = .ok (.decimal d) ∧ d.mantissa = salary.mantissa * r ∧ d.scale = salary.scale + 2
  too_large : ¬InWord (salary.mantissa * r) →
    outcome = .error (.decimalOverflow .multiplication)
  too_fine : InWord (salary.mantissa * r) → 28 < salary.scale + 2 →
    outcome = .error (.decimalOverflow .scale)

theorem raisedBy_mul (salary : Decimal) {d : Decimal} (hd : d.scale = 2) :
    RaisedBy salary d.mantissa
      (((salary.mul d).mapError EvalError.decimalOverflow).map Value.decimal) := by
  rw [Decimal.mul, hd]
  constructor
  · intro hm hs
    obtain ⟨c, hc⟩ := Decimal.make_of_inWord .multiplication hm hs
    obtain ⟨-, hmantissa, hscale⟩ := Decimal.make_eq_ok_iff.mp hc
    rw [hc]
    exact ⟨c, rfl, hmantissa, hscale⟩
  · intro hm
    rw [Decimal.make_of_not_inWord hm]
    rfl
  · intro hm hs
    rw [Decimal.make_of_lt_scale hm (Nat.not_le_of_lt hs)]
    rfl

theorem exists_raise (rate : String) (r : Int) (htext : isDecimalText rate.toList = true)
    (hrate : ∃ d, Decimal.ofText rate = .ok d ∧ d.mantissa = r ∧ d.scale = 2) :
    ∃ e, raise rate = .ok e ∧ ∀ p, RaisedBy p.salary r (evalExpr (scope p) e) := by
  obtain ⟨d, hd, rfl, hscale⟩ := hrate
  refine ⟨.multiply (personProperty "Salary" .decimal)
    (.const (.decimal ⟨rate, htext⟩) .decimal), ?_, ?_⟩
  · rw [raise, Expr.decimal, DecimalText.parse, dif_pos htext]
    rfl
  · intro p
    have hsalary : evalExpr (scope p) (personProperty "Salary" .decimal) =
        .ok (.decimal p.salary) := evalExpr_personProperty .decimal rfl
    have hconst : evalExpr (scope p) (.const (.decimal ⟨rate, htext⟩) .decimal) =
        .ok (.decimal d) := by
      change (Decimal.ofText rate).map Value.decimal = _
      rw [hd]
      rfl
    rw [Expr.multiply, Expr.arithmetic, evalExpr_strict_of_ok (by decide) _ hsalary hconst]
    exact raisedBy_mul p.salary hscale

end Sample

open Sample in
/-- Every salary is raised by the rate of its tier, as far as decimals go. The other tiers play no
part: any trees may stand in them, also trees that fail. -/
theorem salary_raised_in_one_tier :
    ∃ young middle old, raise "1.15" = .ok young ∧ raise "1.08" = .ok middle ∧
      raise "1.03" = .ok old ∧ salary = .ok (byAge young middle old) ∧
      ∀ p : Person,
        RaisedBy p.salary (tier p.age 115 108 103)
          (evaluate (byAge young middle old) [p.toValue]) ∧
        ∀ young' middle' old', tier p.age young' middle' old' = tier p.age young middle old →
          evaluate (byAge young' middle' old') [p.toValue] =
            evaluate (byAge young middle old) [p.toValue] := by
  obtain ⟨young, hyoung, hbelow30⟩ := exists_raise "1.15" 115 (by decide) ⟨_, rfl, rfl, rfl⟩
  obtain ⟨middle, hmiddle, hbelow50⟩ := exists_raise "1.08" 108 (by decide) ⟨_, rfl, rfl, rfl⟩
  obtain ⟨old, hold, habove⟩ := exists_raise "1.03" 103 (by decide) ⟨_, rfl, rfl, rfl⟩
  refine ⟨young, middle, old, hyoung, hmiddle, hold, ?_, ?_⟩
  · rw [salary, hyoung, hmiddle, hold]
    rfl
  · intro p
    rw [evaluate_byAge]
    constructor
    · unfold tier
      split
      · exact hbelow30 p
      · split
        · exact hbelow50 p
        · exact habove p
    · intro young' middle' old' h
      rw [evaluate_byAge, h]

end Legible
