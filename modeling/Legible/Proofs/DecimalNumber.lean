import Legible.Decimal.Text
import Legible.Literal
import Mathlib

/-!
# The number that a decimal is

Arithmetic, order and reading of decimals beside the rational numbers. An operation that answers at
all answers with the exact number; the order is the order of the numbers, although it is found from
whole parts and rests, and no step on the way to it leaves the word.
-/

namespace Legible

namespace Decimal

theorem minMantissa_eq : minMantissa = -2 ^ 127 := by decide

theorem maxMantissa_eq : maxMantissa = 2 ^ 127 - 1 := by decide

def number (d : Decimal) : ℚ := d.mantissa / 10 ^ d.scale

theorem cast_powerOfTen (n : Nat) : (powerOfTen n : ℚ) = 10 ^ n := by
  change ((Int.ofNat (10 ^ n) : Int) : ℚ) = 10 ^ n
  push_cast [Int.ofNat_eq_natCast]
  rfl

theorem powerOfTen_pos (n : Nat) : 0 < powerOfTen n := by
  have h : 0 < 10 ^ n := Nat.pow_pos (by decide)
  exact Int.ofNat_lt.mpr h

theorem powerOfTen_add (m n : Nat) : powerOfTen (m + n) = powerOfTen m * powerOfTen n := by
  change ((10 ^ (m + n) : Nat) : Int) = ((10 ^ m : Nat) : Int) * ((10 ^ n : Nat) : Int)
  rw [pow_add, Nat.cast_mul]

theorem number_ofInt64 (n : Int64) : (ofInt64 n).number = n.toInt := by
  simp [number, ofInt64]

/-! ## Arithmetic -/

theorem make_eq_ok_iff {cause : Overflow} {m : Int} {s : Nat} {d : Decimal} :
    make cause m s = .ok d ↔ fits m = true ∧ d.mantissa = m ∧ d.scale = s := by
  unfold make
  constructor
  · intro h
    split at h
    · rename_i hm
      split at h
      · cases h
        exact ⟨hm, rfl, rfl⟩
      · cases h
    · cases h
  · rintro ⟨hm, rfl, rfl⟩
    rw [dif_pos hm, dif_pos d.scale_le]

theorem number_of_make {cause : Overflow} {m : Int} {s : Nat} {d : Decimal}
    (h : make cause m s = .ok d) : d.number = m / 10 ^ s := by
  obtain ⟨-, rfl, rfl⟩ := make_eq_ok_iff.mp h
  rfl

theorem widen_eq_ok_iff {d : Decimal} {s : Nat} {x : Int} :
    d.widen s = .ok x ↔ fits x = true ∧ x = d.mantissa * powerOfTen (s - d.scale) := by
  unfold widen
  constructor
  · intro h
    dsimp only at h
    split at h
    · rename_i hm
      cases h
      exact ⟨hm, rfl⟩
    · cases h
  · rintro ⟨hm, rfl⟩
    exact if_pos hm

theorem number_of_widen {d : Decimal} {s : Nat} {x : Int} (hs : d.scale ≤ s)
    (h : d.widen s = .ok x) : d.number = x / 10 ^ s := by
  obtain ⟨-, rfl⟩ := widen_eq_ok_iff.mp h
  have hsplit : (10 : ℚ) ^ s = 10 ^ (s - d.scale) * 10 ^ d.scale := by
    rw [← pow_add, Nat.sub_add_cancel hs]
  rw [number, hsplit, Int.cast_mul, cast_powerOfTen]
  field_simp

theorem number_of_align {a b : Decimal} {x y : Int} {s : Nat} (h : align a b = .ok (x, y, s)) :
    a.number = x / 10 ^ s ∧ b.number = y / 10 ^ s := by
  unfold align at h
  dsimp only [bind, Except.bind] at h
  split at h
  · cases h
  · rename_i x' hx
    split at h
    · cases h
    · rename_i y' hy
      cases h
      exact ⟨number_of_widen (Nat.le_max_left _ _) hx, number_of_widen (Nat.le_max_right _ _) hy⟩

theorem number_add {a b c : Decimal} (h : a.add b = .ok c) : c.number = a.number + b.number := by
  unfold add at h
  dsimp only [bind, Except.bind] at h
  split at h
  · cases h
  · rename_i r hr
    obtain ⟨ha, hb⟩ := number_of_align hr
    rw [number_of_make h, ha, hb, Int.cast_add, add_div]

theorem number_sub {a b c : Decimal} (h : a.sub b = .ok c) : c.number = a.number - b.number := by
  unfold sub at h
  dsimp only [bind, Except.bind] at h
  split at h
  · cases h
  · rename_i r hr
    obtain ⟨ha, hb⟩ := number_of_align hr
    rw [number_of_make h, ha, hb, Int.cast_sub, sub_div]

theorem number_mul {a b c : Decimal} (h : a.mul b = .ok c) : c.number = a.number * b.number := by
  rw [number_of_make h, number, number, Int.cast_mul, pow_add, div_mul_div_comm]

/-! ## Order -/

/-- The number counted in the smallest unit there is. -/
def units (d : Decimal) : Int := d.mantissa * powerOfTen (maxScale - d.scale)

theorem number_eq_units (d : Decimal) : d.number = d.units / 10 ^ maxScale := by
  have hsplit : (10 : ℚ) ^ maxScale = 10 ^ (maxScale - d.scale) * 10 ^ d.scale := by
    rw [← pow_add, Nat.sub_add_cancel d.scale_le]
  rw [number, units, hsplit, Int.cast_mul, cast_powerOfTen]
  field_simp

theorem split_eq_units (d : Decimal) :
    d.split = (d.units.tdiv (powerOfTen maxScale), d.units.tmod (powerOfTen maxScale)) := by
  have hpos := powerOfTen_pos (maxScale - d.scale)
  have hsplit : powerOfTen maxScale = powerOfTen (maxScale - d.scale) * powerOfTen d.scale := by
    rw [← powerOfTen_add, Nat.sub_add_cancel d.scale_le]
  rw [units, hsplit, Int.mul_comm d.mantissa, Int.mul_tdiv_mul_of_pos _ _ hpos,
    Int.mul_tmod_mul_of_pos _ _ hpos, split, Int.mul_comm (powerOfTen (maxScale - d.scale))]

theorem compare_of_strictMono {f : Int → ℚ} (hf : StrictMono f) (m n : Int) :
    compare (f m) (f n) = compare m n := by
  rw [← cmp_eq_compare, ← cmp_eq_compare, hf.cmp_map_eq]

theorem lex_of_lt {b x y : Int} (hb : 0 < b) (h : x < y) :
    x.tdiv b < y.tdiv b ∨ x.tdiv b = y.tdiv b ∧ x.tmod b < y.tmod b := by
  have hx := Int.mul_tdiv_add_tmod x b
  have hy := Int.mul_tdiv_add_tmod y b
  rcases Int.lt_or_eq_of_le (Int.tdiv_le_tdiv hb h.le) with hq | hq
  · exact .inl hq
  · rw [hq] at hx
    exact .inr ⟨hq, by omega⟩

theorem compare_tdiv_then_tmod {b : Int} (hb : 0 < b) (x y : Int) :
    (compare (x.tdiv b) (y.tdiv b)).then (compare (x.tmod b) (y.tmod b)) = compare x y := by
  rcases lt_trichotomy x y with h | rfl | h
  · rw [compare_lt_iff_lt.mpr h, Ordering.then_eq_lt, compare_lt_iff_lt, compare_eq_iff_eq,
      compare_lt_iff_lt]
    exact lex_of_lt hb h
  · rw [compare_eq_iff_eq.mpr rfl, compare_eq_iff_eq.mpr rfl, compare_eq_iff_eq.mpr rfl]
    rfl
  · rw [compare_gt_iff_gt.mpr h, Ordering.then_eq_gt, compare_gt_iff_gt, compare_eq_iff_eq,
      compare_gt_iff_gt]
    rcases lex_of_lt hb h with hq | ⟨hq, hr⟩
    · exact .inl hq
    · exact .inr ⟨hq.symm, hr⟩

theorem cmp_eq_compare_number (a b : Decimal) : a.cmp b = compare a.number b.number := by
  have hpos : (0 : ℚ) < 10 ^ maxScale := by positivity
  have hunits : a.cmp b = compare a.units b.units := by
    rw [cmp, split_eq_units, split_eq_units]
    exact compare_tdiv_then_tmod (powerOfTen_pos maxScale) a.units b.units
  have hmono : StrictMono fun n : Int => (n : ℚ) / 10 ^ maxScale := fun _ _ h =>
    div_lt_div_of_pos_right (Int.cast_lt.mpr h) hpos
  rw [hunits, number_eq_units, number_eq_units, compare_of_strictMono hmono]

/-! ## Order in machine words -/

def word? (n : Int) : Option Int := if fits n then some n else none

theorem word?_eq_some {n : Int} (hlo : minMantissa ≤ n) (hhi : n ≤ maxMantissa) :
    word? n = some n := by
  apply if_pos
  rw [fits, decide_eq_true hlo, decide_eq_true hhi]
  rfl

theorem word?_of_natAbs_le {n : Int} (h : n.natAbs ≤ 10 ^ maxScale) : word? n = some n := by
  unfold maxScale at h
  apply word?_eq_some
  · rw [minMantissa_eq]
    omega
  · rw [maxMantissa_eq]
    omega

theorem word?_powerOfTen {n : Nat} (h : n ≤ maxScale) :
    word? (powerOfTen n) = some (powerOfTen n) := by
  apply word?_of_natAbs_le
  exact Nat.pow_le_pow_right (by decide) h

/-- A mantissa over a positive unit stays on its side of zero, so no quotient leaves the word. -/
theorem word?_tdiv (d : Decimal) {unit : Int} (hunit : 0 < unit) :
    word? (d.mantissa.tdiv unit) = some (d.mantissa.tdiv unit) := by
  have hlo := d.mantissa_ge
  have hhi := d.mantissa_le
  have hzero : minMantissa ≤ 0 ∧ 0 ≤ maxMantissa := by decide
  have hsize := Int.natAbs_tdiv_le_natAbs d.mantissa unit
  rcases le_total 0 d.mantissa with h | h
  · have hsign := Int.tdiv_nonneg h hunit.le
    apply word?_eq_some <;> omega
  · have hsign : d.mantissa.tdiv unit ≤ 0 := by
      simpa using Int.tdiv_le_tdiv hunit h
    apply word?_eq_some <;> omega

theorem natAbs_tmod_lt (m : Int) (s : Nat) : (m.tmod (powerOfTen s)).natAbs < 10 ^ s := by
  rw [Int.natAbs_tmod]
  exact Nat.mod_lt _ (Nat.pow_pos (by decide))

/-- `split`, one machine step after the other. There is no answer if the scale passes its limit, or
if a power, a quotient, a rest or a product is no word. -/
def splitInWords? (d : Decimal) : Option (Int × Int) := do
  guard (d.scale ≤ maxScale)
  let unit ← word? (powerOfTen d.scale)
  let spread ← word? (powerOfTen (maxScale - d.scale))
  let whole ← word? (d.mantissa.tdiv unit)
  let rest ← word? (d.mantissa.tmod unit)
  let scaled ← word? (rest * spread)
  return (whole, scaled)

theorem splitInWords?_eq (d : Decimal) : d.splitInWords? = some d.split := by
  have hscale := d.scale_le
  have hrest := natAbs_tmod_lt d.mantissa d.scale
  have hunit : 10 ^ d.scale ≤ 10 ^ maxScale := Nat.pow_le_pow_right (by decide) hscale
  have hscaled : (d.mantissa.tmod (powerOfTen d.scale) * powerOfTen (maxScale - d.scale)).natAbs ≤
      10 ^ maxScale := by
    calc
      (d.mantissa.tmod (powerOfTen d.scale) * powerOfTen (maxScale - d.scale)).natAbs
        = (d.mantissa.tmod (powerOfTen d.scale)).natAbs * 10 ^ (maxScale - d.scale) := by
          rw [Int.natAbs_mul]
          rfl
      _ ≤ 10 ^ d.scale * 10 ^ (maxScale - d.scale) := Nat.mul_le_mul_right _ hrest.le
      _ = 10 ^ maxScale := by rw [← pow_add, Nat.add_sub_cancel' hscale]
  simp only [splitInWords?, hscale, guard_true, Option.bind_eq_bind, Option.bind_some,
    pure_bind, word?_powerOfTen hscale, word?_powerOfTen (Nat.sub_le maxScale d.scale),
    word?_tdiv d (powerOfTen_pos d.scale), word?_of_natAbs_le (hrest.le.trans hunit),
    word?_of_natAbs_le hscaled]
  rfl

theorem order_of_numbers_without_overflow (a b : Decimal) :
    a.cmp b = compare (a.mantissa / 10 ^ a.scale : ℚ) (b.mantissa / 10 ^ b.scale) ∧
      ((a == b) = true ↔ (a.mantissa / 10 ^ a.scale : ℚ) = b.mantissa / 10 ^ b.scale) ∧
      a.splitInWords? = some a.split ∧ b.splitInWords? = some b.split := by
  refine ⟨cmp_eq_compare_number a b, ?_, splitInWords?_eq a, splitInWords?_eq b⟩
  change (a.cmp b == .eq) = true ↔ _
  rw [beq_iff_eq, cmp_eq_compare_number, compare_eq_iff_eq]
  rfl

end Decimal

/-! ## Reading -/

open Text (unsign)

def decimalNumber (cs : List Char) : ℚ :=
  (if (unsign cs).1 then -1 else 1) * magnitude (unsign cs).2
where
  magnitude (body : List Char) : ℚ :=
    let fraction := (body.dropWhile (· != '.')).drop 1
    Number.natOfDigits (body.takeWhile (· != '.')) +
      Number.natOfDigits fraction / 10 ^ fraction.length

theorem natOfDigits_append (as bs : List Char) :
    Number.natOfDigits (as ++ bs) =
      Number.natOfDigits as * 10 ^ bs.length + Number.natOfDigits bs := by
  have hfold : ∀ (bs : List Char) (n : Nat),
      bs.foldl (fun n c => 10 * n + Number.digitValue c) n =
        n * 10 ^ bs.length + Number.natOfDigits bs := by
    intro bs
    induction bs with
    | nil => intro n; simp [Number.natOfDigits]
    | cons c bs ih =>
      intro n
      rw [Number.natOfDigits, List.foldl_cons, List.foldl_cons, ih, ih, List.length_cons, pow_succ]
      ring
  rw [Number.natOfDigits, List.foldl_append, hfold bs]
  rfl

theorem natOfDigits_cons (c : Char) (cs : List Char) :
    Number.natOfDigits (c :: cs) = Number.digitValue c * 10 ^ cs.length + Number.natOfDigits cs := by
  have h := natOfDigits_append [c] cs
  rw [List.singleton_append] at h
  rw [h]
  simp [Number.natOfDigits]

namespace Decimal

theorem natOfDigits_zeros (n : Nat) : Number.natOfDigits (List.replicate n '0') = 0 := by
  induction n with
  | zero => rfl
  | succ n ih =>
    rw [List.replicate_succ, natOfDigits_cons, ih]
    simp [Number.digitValue]

theorem accumulate_eq {cs : List Char} {m n : Int} (h : accumulate m cs = some n) :
    n = m * 10 ^ cs.length + Number.natOfDigits cs := by
  induction cs generalizing m with
  | nil =>
    cases h
    simp [Number.natOfDigits]
  | cons c cs ih =>
    rw [accumulate] at h
    split at h
    · rw [ih h, natOfDigits_cons, List.length_cons, pow_succ]
      push_cast [Int.ofNat_eq_natCast]
      ring
    · cases h

theorem parse_eq (s : String) :
    parse s = parseUnsigned (unsign s.toList).1 (unsign s.toList).2 := rfl

theorem number_of_parseUnsigned {negative : Bool} {body : List Char} {d : Decimal}
    (h : parseUnsigned negative body = .ok d) :
    d.number = (if negative then -1 else 1) * decimalNumber.magnitude body := by
  unfold parseUnsigned at h
  dsimp only at h
  split at h
  · cases h
  · split at h
    · cases h
    · rename_i m hm
      have hsum := accumulate_eq hm
      rw [natOfDigits_append, Int.zero_mul, Int.zero_add] at hsum
      split at h
      · cases hmake : make .scale (if negative then -m else m)
            ((body.dropWhile (· != '.')).drop 1).length with
        | error cause =>
          rw [hmake] at h
          cases h
        | ok d' =>
          rw [hmake] at h
          cases h
          rw [number_of_make hmake, hsum, decimalNumber.magnitude]
          cases negative <;> simp <;> field_simp
      · cases h

theorem number_of_parse {s : String} {d : Decimal} (h : parse s = .ok d) :
    d.number = decimalNumber s.toList :=
  number_of_parseUnsigned (parse_eq s ▸ h)

end Decimal

end Legible
