import Legible.Proofs.DecimalReading
import Legible.Proofs.Grammar.Literals
import Legible.Proofs.SerializedParts
import Legible.Sample

/-!
# Reading back the text of a decimal

A decimal is written as a numeral with its own digits and scale, so that it is read back unchanged as
long as its digits fit a positive mantissa. The least mantissa has no positive counterpart: it is
written and not read. A person is read back under the same condition on the salary.
-/

namespace Legible

namespace Decimal

/-- The digits of the mantissa, with zeros in front for at least one digit before the point. -/
def digits (d : Decimal) : List Char :=
  List.replicate (d.scale + 1 - (Nat.toDigits 10 d.mantissa.natAbs).length) '0' ++
    Nat.toDigits 10 d.mantissa.natAbs

theorem all_digits (d : Decimal) : ∀ c ∈ d.digits, Text.isAsciiDigit c = true := by
  intro c hc
  rcases List.mem_append.mp hc with hc | hc
  · rw [List.eq_of_mem_replicate hc]
    decide
  · exact List.all_eq_true.mp
      (Bool.and_eq_true_iff.mp (isDigits_toDigits d.mantissa.natAbs)).2 c hc

theorem scale_lt_length_digits (d : Decimal) : d.scale < d.digits.length := by
  rw [digits, List.length_append, List.length_replicate]
  omega

theorem natOfDigits_digits (d : Decimal) : Number.natOfDigits d.digits = d.mantissa.natAbs := by
  rw [digits, natOfDigits_append, natOfDigits_zeros, natOfDigits_toDigits, Nat.zero_mul, Nat.zero_add]

def numeral (d : Decimal) : Numeral where
  negative := decide (d.mantissa < 0)
  whole := d.digits.take (d.digits.length - d.scale)
  fraction := d.digits.drop (d.digits.length - d.scale)
  whole_digits := by
    have hlength := d.scale_lt_length_digits
    have hne : d.digits.take (d.digits.length - d.scale) ≠ [] := by
      rw [← List.length_pos_iff, List.length_take]
      omega
    have hall : ∀ c ∈ d.digits.take (d.digits.length - d.scale), Text.isAsciiDigit c = true :=
      fun c hc => d.all_digits c (List.mem_of_mem_take hc)
    rw [isDigits, List.all_eq_true.mpr hall]
    simpa using hne
  fraction_digits := List.all_eq_true.mpr fun c hc => d.all_digits c (List.mem_of_mem_drop hc)

theorem toList_text (d : Decimal) : d.text.toList = d.numeral.text := by
  have hbody : (if d.numeral.fraction.isEmpty then d.numeral.whole
      else d.numeral.whole ++ '.' :: d.numeral.fraction) = d.numeral.whole ++ d.numeral.tail := by
    unfold Numeral.tail
    split
    · rw [List.append_nil]
    · rfl
  have hsign : (d.numeral.negative = true) = (d.mantissa < 0) := decide_eq_true_eq
  rw [text, String.toList_ofList, Numeral.text, ← hbody]
  simp only [hsign]
  rfl

theorem magnitude_numeral (d : Decimal) : d.numeral.magnitude = d.mantissa.natAbs := by
  rw [Numeral.magnitude, numeral, List.take_append_drop, natOfDigits_digits]

theorem mantissa_numeral (d : Decimal) : d.numeral.mantissa = d.mantissa := by
  have hnegative : d.numeral.negative = decide (d.mantissa < 0) := rfl
  rw [Numeral.mantissa, magnitude_numeral, hnegative]
  by_cases h : d.mantissa < 0
  · rw [decide_eq_true h, if_pos rfl]
    omega
  · rw [decide_eq_false h, if_neg Bool.false_ne_true]
    omega

theorem length_fraction_numeral (d : Decimal) : d.numeral.fraction.length = d.scale := by
  have hlength := d.scale_lt_length_digits
  have hdrop : d.numeral.fraction.length = d.digits.length - (d.digits.length - d.scale) :=
    List.length_drop
  omega

theorem ofText_text (d : Decimal) :
    ofText d.text = if d.mantissa = -2 ^ 127 then .error (.invalidDecimal d.text) else .ok d := by
  have hlo := d.mantissa_ge
  have hhi := d.mantissa_le
  rw [minMantissa_eq] at hlo
  rw [maxMantissa_eq] at hhi
  split
  · rename_i hleast
    apply ofText_of_large d.toList_text
    rw [magnitude_numeral]
    omega
  · rename_i hleast
    apply ofText_of_fitting d.toList_text _ d.mantissa_numeral.symm d.length_fraction_numeral.symm
    rw [magnitude_numeral]
    omega

end Decimal

/-! ## People -/

theorem Json.asInt32_toInt (n : Int32) : asInt32 (.int n.toInt) = .ok n := by
  have hlow := n.le_toInt
  have hhigh := n.toInt_lt
  have hrange : -2147483648 ≤ n.toInt ∧ n.toInt ≤ 2147483647 := by omega
  simp [asInt32, asInteger, hrange, Except.map]

namespace Json.RecordFormat

variable {α : Type} {r : RecordFormat α} {seen : List (String × α)} {key : String} {value : Json}
  {rest : List (String × Json)} {f : Field α}

theorem visit_of_ok (hf : r.fields.find? (fun f => f.name == key) = some f)
    (hseen : seen.lookup key = none) {v : α} (hv : f.decode value = .ok v) :
    r.visit seen ((key, value) :: rest) = r.visit ((key, v) :: seen) rest := by
  simp only [visit, hf, hseen, hv, Option.isSome_none, Bool.false_eq_true, if_false]

theorem visit_of_error (hf : r.fields.find? (fun f => f.name == key) = some f)
    (hseen : seen.lookup key = none) {e : DecodeError} (hv : f.decode value = .error e) :
    r.visit seen ((key, value) :: rest) = .error e := by
  simp only [visit, hf, hseen, hv, Option.isSome_none, Bool.false_eq_true, if_false]

end Json.RecordFormat

namespace Person

open Json (RecordFormat)

theorem decodeSalary_text (d : Decimal) :
    decodeSalary (.string d.text) = if d.mantissa = -2 ^ 127
      then .error (.malformed (EvalError.message (.invalidDecimal d.text))) else .ok d := by
  change (Decimal.ofText d.text).mapError _ = _
  rw [Decimal.ofText_text]
  split <;> rfl

def beforeSalary (p : Person) : List (String × Part) :=
  [("city", .optionalText p.city), ("age", .age p.age), ("lastName", .text p.lastName),
   ("firstName", .text p.firstName)]

theorem visit_encode (p : Person) :
    ∃ fields, p.encode = .object fields ∧ format.visit [] fields = format.visit p.beforeSalary
      [("salary", .string p.salary.text), ("isActive", .bool p.isActive)] := by
  refine ⟨_, rfl, ?_⟩
  have hage : (Json.asInt32 (.int p.age.toInt)).map Part.age = .ok (.age p.age) := by
    rw [Json.asInt32_toInt]
    rfl
  rw [RecordFormat.visit_of_ok rfl rfl rfl, RecordFormat.visit_of_ok rfl rfl rfl,
    RecordFormat.visit_of_ok rfl rfl hage,
    RecordFormat.visit_of_ok (v := .optionalText p.city) rfl rfl]
  · rfl
  · cases p.city <;> rfl

theorem decode_encode (p : Person) :
    decode p.encode = if p.salary.mantissa = -2 ^ 127
      then .error (.malformed (EvalError.message (.invalidDecimal p.salary.text))) else .ok p := by
  obtain ⟨fields, hfields, hvisit⟩ := p.visit_encode
  have hsalary := decodeSalary_text p.salary
  rw [decode, hfields, RecordFormat.read, hvisit]
  split
  · rename_i hleast
    rw [if_pos hleast] at hsalary
    have hfault : (decodeSalary (.string p.salary.text)).map Part.salary = .error _ :=
      congrArg (Except.map Part.salary) hsalary
    rw [RecordFormat.visit_of_error rfl rfl hfault]
    rfl
  · rename_i hleast
    rw [if_neg hleast] at hsalary
    have hread : (decodeSalary (.string p.salary.text)).map Part.salary = .ok (.salary p.salary) :=
      congrArg (Except.map Part.salary) hsalary
    rw [RecordFormat.visit_of_ok rfl rfl hread, RecordFormat.visit_of_ok rfl rfl rfl]
    rfl

end Person

/-- The mantissa of least value is written like any other, and is out of reach for a reader that
gathers the digits first and negates them last. -/
theorem decimal_loads_back_unless_least (d : Decimal) (p : Person) :
    (Decimal.ofText d.text = if d.mantissa = -2 ^ 127
      then .error (.invalidDecimal d.text) else .ok d) ∧
    (Person.decodeSalary (.string d.text) = if d.mantissa = -2 ^ 127
      then .error (.malformed ("Invalid decimal literal: " ++ d.text)) else .ok d) ∧
    (Person.decode p.encode = if p.salary.mantissa = -2 ^ 127
      then .error (.malformed ("Invalid decimal literal: " ++ p.salary.text)) else .ok p) :=
  ⟨d.ofText_text, Person.decodeSalary_text d, p.decode_encode⟩

theorem least_decimal_not_read_back :
    ∃ d : Decimal, Decimal.make .scale (-2 ^ 127) 0 = .ok d ∧
      d.text = "-170141183460469231731687303715884105728" ∧
      Decimal.ofText d.text = .error (.invalidDecimal "-170141183460469231731687303715884105728") := by
  refine ⟨⟨-2 ^ 127, 0, by decide, by decide, by decide⟩, ?_, ?_, ?_⟩
  · exact Decimal.make_eq_ok_iff.mpr ⟨by decide, rfl, rfl⟩
  · decide +kernel
  · rw [Decimal.ofText_text, if_pos rfl]
    exact congrArg (fun s => Except.error (EvalError.invalidDecimal s)) (by decide +kernel)

end Legible
