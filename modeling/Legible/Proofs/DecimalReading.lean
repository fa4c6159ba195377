import Legible.Eval
import Legible.Proofs.DecimalArithmetic
import Legible.Proofs.LiteralText

/-!
# Which texts are decimals

A numeral is a sign, digits, and perhaps a point with more digits. Constants of trees and decimals at
run time are read by two readers that look for the point in different ways; both take the numerals
and nothing else, and the second refuses a numeral for its size alone. Too many digits behind the
point are a fault of their own, unless they are too many to count.
-/

namespace Legible

open Text (unsign eq_of_unsign)

/-- A number as it is written; the fraction is empty if there is no point. -/
structure Numeral where
  negative : Bool
  whole : List Char
  fraction : List Char
  whole_digits : isDigits whole = true
  fraction_digits : fraction.all Text.isAsciiDigit = true

namespace Numeral

def tail (x : Numeral) : List Char := if x.fraction.isEmpty then [] else '.' :: x.fraction

def text (x : Numeral) : List Char :=
  if x.negative then '-' :: (x.whole ++ x.tail) else x.whole ++ x.tail

/-- All digits as one number, the point left out. -/
def magnitude (x : Numeral) : Nat := Number.natOfDigits (x.whole ++ x.fraction)

def mantissa (x : Numeral) : Int := if x.negative then -x.magnitude else x.magnitude

theorem not_mem_of_isDigits {c : Char} {ds : List Char} (hc : Text.isAsciiDigit c = false)
    (h : isDigits ds = true) : c ∉ ds := by
  intro hmem
  have hdigit := List.all_eq_true.mp (Bool.and_eq_true_iff.mp h).2 c hmem
  rw [hc] at hdigit
  cases hdigit

theorem split_at_point (x : Numeral) :
    (x.whole ++ x.tail).takeWhile (· != '.') = x.whole ∧
      (x.whole ++ x.tail).dropWhile (· != '.') = x.tail := by
  have hwhole : ∀ c ∈ x.whole, (c != '.') = true := by
    intro c hc
    rw [bne_iff_ne]
    rintro rfl
    exact not_mem_of_isDigits (by decide) x.whole_digits hc
  rw [List.takeWhile_append_of_pos hwhole, List.dropWhile_append_of_pos hwhole]
  unfold tail
  split
  · exact ⟨List.append_nil x.whole, rfl⟩
  · exact ⟨List.append_nil x.whole, rfl⟩

theorem drop_tail (x : Numeral) : x.tail.drop 1 = x.fraction := by
  unfold tail
  split
  · rename_i h
    exact (List.isEmpty_iff.mp h).symm
  · rfl

theorem unsign_text (x : Numeral) : unsign x.text = (x.negative, x.whole ++ x.tail) := by
  have hdigits := x.whole_digits
  cases hneg : x.negative with
  | true => simp [text, hneg, unsign]
  | false =>
    cases hwhole : x.whole with
    | nil =>
      rw [hwhole] at hdigits
      cases hdigits
    | cons d ds =>
      have hd : d ≠ '-' := by
        rintro rfl
        exact not_mem_of_isDigits (by decide) hdigits (hwhole ▸ List.mem_cons_self)
      simp only [text, hneg, hwhole, List.cons_append, Bool.false_eq_true, if_false]
      unfold unsign
      split
      · rename_i h
        exact absurd (List.cons.inj h).1 hd
      · rfl

end Numeral

/-! ## Constants of trees -/

theorem isDecimalText_iff (cs : List Char) :
    isDecimalText cs = true ↔ ∃ x : Numeral, cs = x.text := by
  unfold isDecimalText
  constructor
  · intro h
    unfold isDecimalBody at h
    split at h
    · refine ⟨⟨(unsign cs).1, (unsign cs).2, [], h, rfl⟩, ?_⟩
      simpa [Numeral.text, Numeral.tail] using eq_of_unsign cs
    · rename_i c fraction htail
      obtain ⟨hwhole, hfraction⟩ := Bool.and_eq_true_iff.mp h
      obtain ⟨hne, hall⟩ := Bool.and_eq_true_iff.mp hfraction
      have hc : c = '.' := by
        have hhead := List.head?_dropWhile_not (· != '.') (unsign cs).2
        rw [htail] at hhead
        simpa using hhead
      have hbody := List.takeWhile_append_dropWhile (p := (· != '.')) (l := (unsign cs).2)
      rw [htail, hc] at hbody
      refine ⟨⟨(unsign cs).1, _, fraction, hwhole, hall⟩, ?_⟩
      have hsigned := eq_of_unsign cs
      simp only [Bool.not_eq_true'] at hne
      simpa [Numeral.text, Numeral.tail, hne, hbody] using hsigned
  · rintro ⟨x, rfl⟩
    obtain ⟨htake, hdrop⟩ := x.split_at_point
    rw [x.unsign_text]
    unfold isDecimalBody
    simp only [htake, hdrop]
    unfold Numeral.tail
    cases hfraction : x.fraction with
    | nil => simpa using x.whole_digits
    | cons d ds =>
      have hall := x.fraction_digits
      rw [hfraction] at hall
      exact Bool.and_eq_true_iff.mpr ⟨x.whole_digits, hall⟩

theorem DecimalText.parse_eq_ok_iff {s : String} {d : DecimalText} :
    DecimalText.parse s = .ok d ↔ d.text = s := by
  unfold DecimalText.parse
  constructor
  · intro h
    split at h
    · cases h
      rfl
    · cases h
  · rintro rfl
    exact dif_pos d.wellFormed

/-! ## Decimals at run time -/

namespace Decimal

theorem word?_eq_none {n : Int} (h : 2 ^ 127 - 1 < n) : word? n = none := by
  apply if_neg
  rw [fits_iff]
  rintro ⟨-, hle⟩
  omega

theorem word?_of_le {n : Nat} (h : n ≤ 2 ^ 127 - 1) : word? n = some n := by
  apply word?_eq_some
  · rw [minMantissa_eq]
    omega
  · rw [maxMantissa_eq]
    omega

/-- The digits only ever add, so a number that leaves the word on the way is too large in the end. -/
theorem accumulate_eq_word? (cs : List Char) {m : Int} (hlo : 0 ≤ m) (hhi : m ≤ 2 ^ 127 - 1) :
    accumulate m cs = word? (m * 10 ^ cs.length + Number.natOfDigits cs) := by
  induction cs generalizing m with
  | nil =>
    have hm : word? m = some m := by
      rw [← Int.toNat_of_nonneg hlo]
      exact word?_of_le (by omega)
    simp [accumulate, Number.natOfDigits, hm]
  | cons c cs ih =>
    have htotal : m * 10 ^ (c :: cs).length + Number.natOfDigits (c :: cs) =
        (m * 10 + Int.ofNat (Number.digitValue c)) * 10 ^ cs.length + Number.natOfDigits cs := by
      rw [natOfDigits_cons, List.length_cons, Int.ofNat_eq_natCast]
      push_cast
      ring
    have hpos : 0 ≤ m * 10 + Int.ofNat (Number.digitValue c) := by
      have := Int.natCast_nonneg (Number.digitValue c)
      simp only [Int.ofNat_eq_natCast]
      omega
    rw [accumulate, htotal]
    generalize m * 10 + Int.ofNat (Number.digitValue c) = next at hpos ⊢
    by_cases hfits : next ≤ 2 ^ 127 - 1
    · have hword : fits next = true := fits_iff.mpr ⟨by omega, hfits⟩
      rw [if_pos hword]
      exact ih hpos hfits
    · have hword : ¬fits next = true := fun h => hfits (fits_iff.mp h).2
      have hgrows : next ≤ next * 10 ^ cs.length :=
        le_mul_of_one_le_right hpos (one_le_pow₀ (by decide))
      have hrest := Int.natCast_nonneg (Number.natOfDigits cs)
      rw [if_neg hword, word?_eq_none (by omega)]

theorem parse_of_numeral {s : String} {x : Numeral} (h : s.toList = x.text) :
    parse s = if x.magnitude ≤ 2 ^ 127 - 1 ∧ x.fraction.length < 2 ^ 32
      then (make .scale x.mantissa x.fraction.length).mapError .overflow
      else .error .malformed := by
  obtain ⟨htake, hdrop⟩ := x.split_at_point
  have hguard : (x.whole.isEmpty || (!x.tail.isEmpty && x.fraction.isEmpty) ||
      !(x.whole ++ x.fraction).all Text.isAsciiDigit) = false := by
    obtain ⟨hne, hall⟩ := Bool.and_eq_true_iff.mp x.whole_digits
    have hpoint : (!x.tail.isEmpty && x.fraction.isEmpty) = false := by
      unfold Numeral.tail
      cases x.fraction <;> rfl
    rw [hpoint, List.all_append, hall, x.fraction_digits]
    simpa using hne
  have hdigits : accumulate 0 (x.whole ++ x.fraction) = word? x.magnitude := by
    rw [accumulate_eq_word? _ le_rfl (by decide), Int.zero_mul, Int.zero_add]
    rfl
  have hcount : x.fraction.length ≤ maxFraction ↔ x.fraction.length < 2 ^ 32 := by
    unfold maxFraction
    omega
  rw [parse_eq, h, x.unsign_text, parseUnsigned]
  simp only [htake, hdrop, x.drop_tail, hguard, Bool.false_eq_true, if_false, hcount]
  rw [hdigits]
  by_cases hsize : x.magnitude ≤ 2 ^ 127 - 1
  · rw [word?_of_le (by omega)]
    simp only [hsize, true_and]
    rfl
  · rw [word?_eq_none (by omega), if_neg fun hboth => hsize hboth.1]

theorem isDecimalText_of_parse {s : String} (h : parse s ≠ .error .malformed) :
    isDecimalText s.toList = true := by
  unfold isDecimalText
  rw [parse_eq, parseUnsigned] at h
  split at h
  · exact absurd rfl h
  · rename_i hguard
    simp only [Bool.or_eq_true, Bool.and_eq_true, Bool.not_eq_true', not_or, not_and,
      Bool.not_eq_false, List.all_append] at hguard
    obtain ⟨⟨hwhole, hpoint⟩, hdigits, hbehind⟩ := hguard
    have hfront : isDigits ((unsign s.toList).2.takeWhile (· != '.')) = true := by
      rw [isDigits, hdigits]
      simpa using hwhole
    unfold isDecimalBody
    split
    · rename_i htail
      have hbody := List.takeWhile_append_dropWhile (p := (· != '.')) (l := (unsign s.toList).2)
      rw [htail, List.append_nil] at hbody
      rwa [hbody] at hfront
    · rename_i c fraction htail
      rw [htail] at hpoint hbehind
      have hfraction : isDigits fraction = true := by
        have hparts := And.intro (hpoint rfl) hbehind
        simpa [isDigits] using hparts
      rw [hfront, hfraction]
      rfl

theorem ofText_of_numeral {s : String} {x : Numeral} (h : s.toList = x.text) :
    ofText s = if x.magnitude ≤ 2 ^ 127 - 1 ∧ x.fraction.length < 2 ^ 32
      then (make .scale x.mantissa x.fraction.length).mapError .decimalOverflow
      else .error (.invalidDecimal s) := by
  rw [ofText, parse_of_numeral h]
  split
  · cases make .scale x.mantissa x.fraction.length <;> rfl
  · rfl

theorem ofText_of_no_numeral {s : String} (h : ¬∃ x : Numeral, s.toList = x.text) :
    ofText s = .error (.invalidDecimal s) := by
  have hmalformed : parse s = .error .malformed := by
    by_contra hparse
    exact h ((isDecimalText_iff s.toList).mp (isDecimalText_of_parse hparse))
  rw [ofText, hmalformed]
  rfl

end Decimal

theorem Numeral.inWord_mantissa {x : Numeral} (h : x.magnitude ≤ 2 ^ 127 - 1) :
    Decimal.InWord x.mantissa := by
  unfold mantissa
  split <;> constructor <;> omega

/-! ## The size of a numeral -/

namespace Decimal

section Numeral

variable {s : String} {x : Numeral} (hx : s.toList = x.text)
include hx

theorem ofText_of_large (h : 2 ^ 127 - 1 < x.magnitude ∨ 2 ^ 32 ≤ x.fraction.length) :
    ofText s = .error (.invalidDecimal s) := by
  rw [ofText_of_numeral hx, if_neg (by omega)]

theorem ofText_of_long (h : x.magnitude ≤ 2 ^ 127 - 1) (hlong : 28 < x.fraction.length)
    (hcount : x.fraction.length < 2 ^ 32) : ofText s = .error (.decimalOverflow .scale) := by
  rw [ofText_of_numeral hx, if_pos ⟨h, hcount⟩,
    make_of_lt_scale (x.inWord_mantissa h) (Nat.not_le_of_lt hlong)]
  rfl

theorem ofText_of_fitting (h : x.magnitude ≤ 2 ^ 127 - 1) {d : Decimal}
    (hm : d.mantissa = x.mantissa) (hs : d.scale = x.fraction.length) : ofText s = .ok d := by
  have hmake : make .scale x.mantissa x.fraction.length = .ok d :=
    make_eq_ok_iff.mpr ⟨fits_iff.mpr (x.inWord_mantissa h), hm, hs⟩
  have hcount : x.fraction.length < 2 ^ 32 := by
    rw [← hs]
    exact Nat.lt_of_le_of_lt d.scale_le (by decide)
  rw [ofText_of_numeral hx, if_pos ⟨h, hcount⟩, hmake]
  rfl

end Numeral

inductive Reads (s : String) : Except EvalError Decimal → Prop where
  | malformed (h : ¬∃ x : Numeral, s.toList = x.text) : Reads s (.error (.invalidDecimal s))
  | large {x : Numeral} (hx : s.toList = x.text)
      (h : 2 ^ 127 - 1 < x.magnitude ∨ 2 ^ 32 ≤ x.fraction.length) :
      Reads s (.error (.invalidDecimal s))
  | long {x : Numeral} (hx : s.toList = x.text) (h : x.magnitude ≤ 2 ^ 127 - 1)
      (hlong : 28 < x.fraction.length) (hcount : x.fraction.length < 2 ^ 32) :
      Reads s (.error (.decimalOverflow .scale))
  | fitting {x : Numeral} (hx : s.toList = x.text) (h : x.magnitude ≤ 2 ^ 127 - 1) {d : Decimal}
      (hm : d.mantissa = x.mantissa) (hs : d.scale = x.fraction.length) : Reads s (.ok d)

theorem reads_ofText (s : String) : Reads s (ofText s) := by
  by_cases hform : ∃ x : Numeral, s.toList = x.text
  · obtain ⟨x, hx⟩ := hform
    by_cases hlarge : 2 ^ 127 - 1 < x.magnitude ∨ 2 ^ 32 ≤ x.fraction.length
    · rw [ofText_of_large hx hlarge]
      exact .large hx hlarge
    · have h : x.magnitude ≤ 2 ^ 127 - 1 := by omega
      have hcount : x.fraction.length < 2 ^ 32 := by omega
      rcases Nat.lt_or_ge 28 x.fraction.length with hlong | hlong
      · rw [ofText_of_long hx h hlong hcount]
        exact .long hx h hlong hcount
      · obtain ⟨d, hd⟩ := make_of_inWord .scale (x.inWord_mantissa h) hlong
        obtain ⟨-, hm, hs⟩ := make_eq_ok_iff.mp hd
        rw [ofText_of_fitting hx h hm hs]
        exact .fitting hx h hm hs
  · rw [ofText_of_no_numeral hform]
    exact .malformed hform

theorem reads_iff {s : String} {r : Except EvalError Decimal} : Reads s r ↔ ofText s = r := by
  constructor
  · intro h
    cases h with
    | malformed h => exact ofText_of_no_numeral h
    | large hx h => exact ofText_of_large hx h
    | long hx h hlong hcount => exact ofText_of_long hx h hlong hcount
    | fitting hx h hm hs => exact ofText_of_fitting hx h hm hs
  · rintro rfl
    exact reads_ofText s

theorem ofText_eq_ok_iff {s : String} {d : Decimal} :
    ofText s = .ok d ↔ ∃ x : Numeral, s.toList = x.text ∧ x.magnitude ≤ 2 ^ 127 - 1 ∧
      x.fraction.length ≤ 28 ∧ d.mantissa = x.mantissa ∧ d.scale = x.fraction.length := by
  rw [← reads_iff]
  constructor
  · intro h
    cases h with
    | fitting hx h hm hs => exact ⟨_, hx, h, hs ▸ d.scale_le, hm, hs⟩
  · rintro ⟨x, hx, h, -, hm, hs⟩
    exact .fitting hx h hm hs

theorem ofText_eq_invalid_iff {s : String} :
    ofText s = .error (.invalidDecimal s) ↔ (¬∃ x : Numeral, s.toList = x.text) ∨
      ∃ x : Numeral, s.toList = x.text ∧
        (2 ^ 127 - 1 < x.magnitude ∨ 2 ^ 32 ≤ x.fraction.length) := by
  rw [← reads_iff]
  constructor
  · intro h
    cases h with
    | malformed h => exact .inl h
    | large hx h => exact .inr ⟨_, hx, h⟩
  · rintro (h | ⟨x, hx, h⟩)
    · exact .malformed h
    · exact .large hx h

theorem ofText_eq_scale_iff {s : String} :
    ofText s = .error (.decimalOverflow .scale) ↔
      ∃ x : Numeral, s.toList = x.text ∧ x.magnitude ≤ 2 ^ 127 - 1 ∧ 28 < x.fraction.length ∧
        x.fraction.length < 2 ^ 32 := by
  rw [← reads_iff]
  constructor
  · intro h
    cases h with
    | long hx h hlong hcount => exact ⟨_, hx, h, hlong, hcount⟩
  · rintro ⟨x, hx, h, hlong, hcount⟩
    exact .long hx h hlong hcount

theorem ofText_fails_iff {s : String} (hs : ∃ x : Numeral, s.toList = x.text) :
    (∃ e, ofText s = .error e) ↔
      ∃ x : Numeral, s.toList = x.text ∧ (2 ^ 127 - 1 < x.magnitude ∨ 28 < x.fraction.length) := by
  constructor
  · rintro ⟨e, he⟩
    cases reads_iff.mpr he with
    | malformed h => exact absurd hs h
    | large hx h => exact ⟨_, hx, h.imp_right fun hcount => by omega⟩
    | long hx h hlong _ => exact ⟨_, hx, .inr hlong⟩
  · rintro ⟨x, hx, hsize⟩
    by_cases hlarge : 2 ^ 127 - 1 < x.magnitude ∨ 2 ^ 32 ≤ x.fraction.length
    · exact ⟨_, ofText_of_large hx hlarge⟩
    · exact ⟨_, ofText_of_long hx (by omega) (by omega) (by omega)⟩

end Decimal

/-! ## Both readers -/

theorem DecimalText.exists_parse_iff {s : String} :
    (∃ d, DecimalText.parse s = .ok d) ↔ ∃ x : Numeral, s.toList = x.text := by
  rw [← isDecimalText_iff]
  constructor
  · rintro ⟨d, hd⟩
    rw [← parse_eq_ok_iff.mp hd]
    exact d.wellFormed
  · intro h
    exact ⟨⟨s, h⟩, parse_eq_ok_iff.mpr rfl⟩

theorem evalExpr_decimal_fails_iff (bindings : Bindings) (d : DecimalText) (type : Ty)
    (capturedFrom : Option String) :
    (∃ e, evalExpr bindings (.constant (.decimal d) type capturedFrom) = .error e) ↔
      ∃ e, Decimal.ofText d.text = .error e := by
  change (∃ e, (Decimal.ofText d.text).map Value.decimal = .error e) ↔ _
  cases Decimal.ofText d.text with
  | error e => exact ⟨fun _ => ⟨e, rfl⟩, fun _ => ⟨e, rfl⟩⟩
  | ok c =>
    constructor
    · rintro ⟨e, he⟩
      cases he
    · rintro ⟨e, he⟩
      cases he

theorem decimal_readers_agree (s : String) :
    ((∃ d, DecimalText.parse s = .ok d) ↔ ∃ x : Numeral, s.toList = x.text) ∧
      (∀ d, DecimalText.parse s = .ok d ↔ d.text = s) ∧
      (∀ d, Decimal.ofText s = .ok d ↔ ∃ x : Numeral, s.toList = x.text ∧
        x.magnitude ≤ 2 ^ 127 - 1 ∧ x.fraction.length ≤ 28 ∧
        d.mantissa = x.mantissa ∧ d.scale = x.fraction.length) ∧
      (Decimal.ofText s = .error (.invalidDecimal s) ↔ (¬∃ x : Numeral, s.toList = x.text) ∨
        ∃ x : Numeral, s.toList = x.text ∧
          (2 ^ 127 - 1 < x.magnitude ∨ 2 ^ 32 ≤ x.fraction.length)) ∧
      (Decimal.ofText s = .error (.decimalOverflow .scale) ↔ ∃ x : Numeral, s.toList = x.text ∧
        x.magnitude ≤ 2 ^ 127 - 1 ∧ 28 < x.fraction.length ∧ x.fraction.length < 2 ^ 32) ∧
      ∀ d, DecimalText.parse s = .ok d → ∀ bindings type capturedFrom,
        (∃ e, evalExpr bindings (.constant (.decimal d) type capturedFrom) = .error e) ↔
          ∃ x : Numeral, s.toList = x.text ∧
            (2 ^ 127 - 1 < x.magnitude ∨ 28 < x.fraction.length) := by
  refine ⟨DecimalText.exists_parse_iff, fun _ => DecimalText.parse_eq_ok_iff,
    fun _ => Decimal.ofText_eq_ok_iff, Decimal.ofText_eq_invalid_iff, Decimal.ofText_eq_scale_iff, ?_⟩
  intro d hd bindings type capturedFrom
  rw [evalExpr_decimal_fails_iff, DecimalText.parse_eq_ok_iff.mp hd]
  exact Decimal.ofText_fails_iff (DecimalText.exists_parse_iff.mp ⟨d, hd⟩)

def Numeral.zero (n : Nat) : Numeral where
  negative := false
  whole := ['0']
  fraction := List.replicate n '0'
  whole_digits := rfl
  fraction_digits := by
    rw [List.all_replicate]
    split <;> rfl

theorem Numeral.magnitude_zero (n : Nat) : (zero n).magnitude = 0 :=
  Decimal.natOfDigits_zeros (n + 1)

/-- So many zeros that their number is not counted: it is not the number of digits that is found
wrong, although they are far too many. -/
theorem uncounted_fraction_invalid :
    ∃ s : String, s.toList = '0' :: '.' :: List.replicate (2 ^ 32) '0' ∧
      (∃ x : Numeral, s.toList = x.text ∧ x.magnitude ≤ 2 ^ 127 - 1 ∧ 28 < x.fraction.length) ∧
      Decimal.ofText s = .error (.invalidDecimal s) ∧
      Decimal.ofText s ≠ .error (.decimalOverflow .scale) := by
  have hlength : (Numeral.zero (2 ^ 32)).fraction.length = 2 ^ 32 := List.length_replicate
  have htext : (Numeral.zero (2 ^ 32)).text = '0' :: '.' :: List.replicate (2 ^ 32) '0' := by
    have htail : (Numeral.zero (2 ^ 32)).tail = '.' :: (Numeral.zero (2 ^ 32)).fraction := by
      apply if_neg
      rw [List.isEmpty_iff_length_eq_zero, hlength]
      decide
    change '0' :: (Numeral.zero (2 ^ 32)).tail = _
    rw [htail]
    rfl
  have hinvalid : Decimal.ofText (String.ofList (Numeral.zero (2 ^ 32)).text) = _ :=
    Decimal.ofText_of_large String.toList_ofList (.inr hlength.ge)
  refine ⟨String.ofList (Numeral.zero (2 ^ 32)).text, ?_, ?_, hinvalid, ?_⟩
  · rw [String.toList_ofList, htext]
  · refine ⟨Numeral.zero (2 ^ 32), String.toList_ofList, ?_, ?_⟩
    · rw [Numeral.magnitude_zero]
      decide
    · rw [hlength]
      decide
  · rw [hinvalid]
    intro h
    cases h

end Legible
