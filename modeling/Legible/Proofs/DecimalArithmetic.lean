import Legible.Proofs.DecimalNumber

/-!
# When decimal arithmetic answers

Addition, subtraction and multiplication answer exactly where every integer on the way fits the word
and the digits are not too many, and then with the exact number. The refusal names the first step
that did not fit.
-/

namespace Legible.Decimal

def InWord (n : Int) : Prop := -2 ^ 127 ≤ n ∧ n ≤ 2 ^ 127 - 1

instance (n : Int) : Decidable (InWord n) := inferInstanceAs (Decidable (_ ∧ _))

theorem fits_iff {n : Int} : fits n = true ↔ InWord n := by
  simp [fits, InWord, minMantissa_eq, maxMantissa_eq]

/-- The mantissa of `a` over the larger of two scales. -/
def alignedMantissa (a b : Decimal) : Int := a.mantissa * 10 ^ (max a.scale b.scale - a.scale)

/-- An operation answers just where it is `possible`: then with the number `q` and `s` fractional
digits, and otherwise with `fault`. -/
structure ExactOrRefused (r : Except Overflow Decimal) (possible : Prop) (s : Nat) (q : ℚ)
    (fault : Overflow) : Prop where
  ok_iff : (∃ c, r = .ok c) ↔ possible
  exact : ∀ c, r = .ok c → c.scale = s ∧ s ≤ 28 ∧ c.number = q
  refused : ¬possible → r = .error fault

theorem make_of_inWord (cause : Overflow) {m : Int} {s : Nat} (hm : InWord m)
    (hs : s ≤ maxScale) : ∃ c, make cause m s = .ok c := by
  unfold make
  rw [dif_pos (fits_iff.mpr hm), dif_pos hs]
  exact ⟨_, rfl⟩

theorem make_of_not_inWord {cause : Overflow} {m : Int} {s : Nat} (hm : ¬InWord m) :
    make cause m s = .error cause := by
  unfold make
  rw [dif_neg (mt fits_iff.mp hm)]

theorem make_of_lt_scale {cause : Overflow} {m : Int} {s : Nat} (hm : InWord m)
    (hs : ¬s ≤ maxScale) : make cause m s = .error .scale := by
  unfold make
  rw [dif_pos (fits_iff.mpr hm), dif_neg hs]

theorem exactOrRefused_make {cause : Overflow} {m : Int} {s : Nat} {q : ℚ}
    (hq : ∀ c, make cause m s = .ok c → c.number = q) :
    ExactOrRefused (make cause m s) (InWord m ∧ s ≤ 28) s q
      (if InWord m then .scale else cause) where
  ok_iff := by
    constructor
    · rintro ⟨c, hc⟩
      obtain ⟨hm, -, rfl⟩ := make_eq_ok_iff.mp hc
      exact ⟨fits_iff.mp hm, c.scale_le⟩
    · rintro ⟨hm, hs⟩
      exact make_of_inWord cause hm hs
  exact := by
    intro c hc
    obtain ⟨-, -, hs⟩ := make_eq_ok_iff.mp hc
    exact ⟨hs, hs ▸ c.scale_le, hq c hc⟩
  refused := by
    intro h
    by_cases hm : InWord m
    · rw [if_pos hm]
      exact make_of_lt_scale hm fun hs => h ⟨hm, hs⟩
    · rw [if_neg hm]
      exact make_of_not_inWord hm

theorem widen_eq (d : Decimal) (s : Nat) :
    d.widen s = if InWord (d.mantissa * 10 ^ (s - d.scale))
      then .ok (d.mantissa * 10 ^ (s - d.scale)) else .error .rescale := by
  have hpower : powerOfTen (s - d.scale) = 10 ^ (s - d.scale) := Nat.cast_pow 10 (s - d.scale)
  simp only [widen, fits_iff, hpower]

/-- Both mantissas must fit before they are brought together. -/
theorem align_bind_make (a b : Decimal) (cause : Overflow) (f : Int → Int → Int) :
    (align a b >>= fun r => make cause (f r.1 r.2.1) r.2.2) =
      if InWord (alignedMantissa a b) ∧ InWord (alignedMantissa b a) then
        make cause (f (alignedMantissa a b) (alignedMantissa b a)) (max a.scale b.scale)
      else .error .rescale := by
  have hb : b.widen (max a.scale b.scale) = if InWord (alignedMantissa b a)
      then .ok (alignedMantissa b a) else .error .rescale := by
    rw [widen_eq, alignedMantissa, Nat.max_comm b.scale]
  have ha : a.widen (max a.scale b.scale) = if InWord (alignedMantissa a b)
      then .ok (alignedMantissa a b) else .error .rescale := widen_eq a _
  change (align a b).bind _ = _
  change (Except.bind (a.widen (max a.scale b.scale)) fun x =>
    (b.widen (max a.scale b.scale)).bind fun y => .ok (x, y, max a.scale b.scale)).bind _ = _
  rw [ha, hb]
  by_cases hx : InWord (alignedMantissa a b)
  · by_cases hy : InWord (alignedMantissa b a)
    · rw [if_pos hx, if_pos hy, if_pos ⟨hx, hy⟩]
      rfl
    · rw [if_pos hx, if_neg hy, if_neg (fun h => hy h.2)]
      rfl
  · have hnot : ¬(InWord (alignedMantissa a b) ∧ InWord (alignedMantissa b a)) := fun h => hx h.1
    rw [if_neg hx, if_neg hnot]
    rfl

theorem exactOrRefused_aligned {r : Except Overflow Decimal} {a b : Decimal} {cause : Overflow}
    {f : Int → Int → Int} {q : ℚ}
    (hr : r = align a b >>= fun r => make cause (f r.1 r.2.1) r.2.2)
    (hq : ∀ c, r = .ok c → c.number = q) :
    ExactOrRefused r
      (InWord (alignedMantissa a b) ∧ InWord (alignedMantissa b a) ∧
        InWord (f (alignedMantissa a b) (alignedMantissa b a)))
      (max a.scale b.scale) q
      (if InWord (alignedMantissa a b) ∧ InWord (alignedMantissa b a) then cause else .rescale) := by
  rw [align_bind_make] at hr
  have hscale : max a.scale b.scale ≤ 28 := Nat.max_le.mpr ⟨a.scale_le, b.scale_le⟩
  by_cases h : InWord (alignedMantissa a b) ∧ InWord (alignedMantissa b a)
  · rw [if_pos h] at hr ⊢
    subst hr
    obtain ⟨hok, hexact, -⟩ := exactOrRefused_make hq
    refine ⟨hok.trans ?_, hexact, fun hnot => ?_⟩
    · exact ⟨fun hm => ⟨h.1, h.2, hm.1⟩, fun hm => ⟨hm.2.2, hscale⟩⟩
    · exact make_of_not_inWord fun hm => hnot ⟨h.1, h.2, hm⟩
  · rw [if_neg h] at hr ⊢
    subst hr
    refine ⟨⟨?_, fun hm => absurd ⟨hm.1, hm.2.1⟩ h⟩, ?_, fun _ => rfl⟩
    · rintro ⟨c, hc⟩
      cases hc
    · intro c hc
      cases hc

theorem arithmetic_exact_or_refused (a b : Decimal) :
    let x := alignedMantissa a b
    let y := alignedMantissa b a
    let s := max a.scale b.scale
    let product := a.mantissa * b.mantissa
    ExactOrRefused (a.add b) (InWord x ∧ InWord y ∧ InWord (x + y)) s (a.number + b.number)
        (if InWord x ∧ InWord y then .addition else .rescale) ∧
      ExactOrRefused (a.sub b) (InWord x ∧ InWord y ∧ InWord (x - y)) s (a.number - b.number)
        (if InWord x ∧ InWord y then .subtraction else .rescale) ∧
      ExactOrRefused (a.mul b) (InWord product ∧ a.scale + b.scale ≤ 28) (a.scale + b.scale)
        (a.number * b.number) (if InWord product then .scale else .multiplication) :=
  ⟨exactOrRefused_aligned rfl fun _ => number_add, exactOrRefused_aligned rfl fun _ => number_sub,
    exactOrRefused_make fun _ => number_mul⟩

end Legible.Decimal
