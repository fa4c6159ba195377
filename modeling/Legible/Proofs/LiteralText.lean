import Legible.Proofs.PageText
import Legible.Render

/-!
# The texts of literals

What characters the text of a literal consists of. In particular it is never empty and stays on one
line, whatever the value is.
-/

namespace Legible

def IsNumberChar (c : Char) : Prop := c.isDigit = true ∨ c = '.' ∨ c = '-'

theorem OneLine.of_numberChar {cs : List Char} (h : ∀ c ∈ cs, IsNumberChar c) : OneLine cs := by
  intro c hc
  rcases h c hc with h | rfl | rfl
  · constructor <;> rintro rfl <;> cases h
  · decide
  · decide

theorem isNumberChar_of_mem_toDigits {c : Char} {n : Nat} (h : c ∈ Nat.toDigits 10 n) :
    IsNumberChar c := .inl (Nat.isDigit_of_mem_toDigits (by decide) (by decide) h)

theorem isDigit_of_isAsciiDigit {c : Char} (h : Text.isAsciiDigit c = true) : c.isDigit = true := by
  simpa [Text.isAsciiDigit, Char.isDigit, Char.le_def] using h

theorem toList_toString_int (k : Int) :
    (toString k).toList = (if k < 0 then ['-'] else []) ++ Nat.toDigits 10 k.natAbs := by
  cases k with
  | ofNat n =>
    have hn : ¬ Int.ofNat n < 0 := Int.not_lt.mpr (Int.natCast_nonneg n)
    rw [if_neg hn]
    exact Nat.toList_repr
  | negSucc n =>
    rw [if_pos (Int.negSucc_lt_zero n)]
    change ("-" ++ (n + 1).repr).toList = _
    rw [String.toList_append, Nat.toList_repr]
    rfl

theorem numberChars_toString_int (k : Int) : ∀ c ∈ (toString k).toList, IsNumberChar c := by
  intro c hc
  rw [toList_toString_int] at hc
  rcases List.mem_append.mp hc with hc | hc
  · split at hc
    · exact .inr (.inr (List.mem_singleton.mp hc))
    · cases hc
  · exact isNumberChar_of_mem_toDigits hc

theorem toString_int_ne_empty (k : Int) : toString k ≠ "" := by
  intro h
  have hk := toList_toString_int k
  rw [h] at hk
  exact Nat.toDigits_ne_nil (List.append_eq_nil_iff.mp hk.symm).2

theorem numberChars_of_isDigits {cs : List Char} (h : isDigits cs = true) :
    ∀ c ∈ cs, IsNumberChar c := by
  intro c hc
  have hall := (Bool.and_eq_true_iff.mp h).2
  exact .inl (isDigit_of_isAsciiDigit (List.all_eq_true.mp hall c hc))

theorem numberChars_of_parts {body : List Char}
    {point : Char} {fraction : List Char} (hd : body.dropWhile (· != '.') = point :: fraction)
    (h : (isDigits (body.takeWhile (· != '.')) && isDigits fraction) = true) :
    ∀ c ∈ body, IsNumberChar c := by
  obtain ⟨hw, hf⟩ := Bool.and_eq_true_iff.mp h
  intro c hc
  rw [← List.takeWhile_append_dropWhile (p := (· != '.')) (l := body), hd] at hc
  rcases List.mem_append.mp hc with hc | hc
  · exact numberChars_of_isDigits hw c hc
  · rcases List.mem_cons.mp hc with rfl | hc
    · have hpoint := List.head_dropWhile_not (· != '.') (l := body) (by simp [hd])
      exact .inr (.inl (by simpa [hd] using hpoint))
    · exact numberChars_of_isDigits hf c hc

theorem numberChars_of_isDecimalBody {body : List Char} (h : isDecimalBody body = true) :
    ∀ c ∈ body, IsNumberChar c := by
  unfold isDecimalBody at h
  split at h
  · exact numberChars_of_isDigits h
  · exact numberChars_of_parts ‹_› h

theorem Text.eq_of_unsign (cs : List Char) :
    cs = if (unsign cs).1 then '-' :: (unsign cs).2 else (unsign cs).2 := by
  unfold unsign
  split <;> rfl

theorem numberChars_decimalText (d : DecimalText) : ∀ c ∈ d.text.toList, IsNumberChar c := by
  have hbody := numberChars_of_isDecimalBody d.wellFormed
  intro c hc
  rw [Text.eq_of_unsign d.text.toList] at hc
  split at hc
  · rcases List.mem_cons.mp hc with rfl | hc
    · exact .inr (.inr rfl)
    · exact hbody c hc
  · exact hbody c hc

theorem decimalText_ne_empty (d : DecimalText) : d.text ≠ "" := by
  intro h
  have := d.wellFormed
  rw [h] at this
  cases this

namespace Number

theorem numberChars_zeros (n : Nat) : ∀ c ∈ zeros n, IsNumberChar c := by
  intro c hc
  rw [List.eq_of_mem_replicate hc]
  exact .inl rfl

theorem numberChars_ofScaled (d : Nat) (e : Int) :
    ∀ c ∈ (Digits.ofScaled d e).digits, IsNumberChar c := by
  intro c hc
  have hc := List.dropWhile_subset _ (List.mem_reverse.mp hc)
  exact isNumberChar_of_mem_toDigits (List.mem_reverse.mp hc)

theorem numberChars_layPositional (pointZero : Bool) {d : Digits}
    (h : ∀ c ∈ d.digits, IsNumberChar c) : ∀ c ∈ layPositional pointZero d, IsNumberChar c := by
  have hz := numberChars_zeros
  have hpoint : IsNumberChar '.' := .inr (.inl rfl)
  have hzero : IsNumberChar '0' := .inl rfl
  intro c hc
  rw [layPositional] at hc
  by_cases hlow : d.point ≤ 0
  · rw [if_pos hlow] at hc
    simp only [List.mem_cons, List.mem_append] at hc
    rcases hc with rfl | rfl | hc | hc
    · exact hzero
    · exact hpoint
    · exact hz _ c hc
    · exact h c hc
  rw [if_neg hlow] at hc
  by_cases hwhole : (d.digits.length : Int) ≤ d.point
  · rw [if_pos hwhole] at hc
    simp only [List.mem_append] at hc
    rcases hc with (hc | hc) | hc
    · exact h c hc
    · exact hz _ c hc
    · cases pointZero with
      | false => cases hc
      | true =>
        simp only [if_true, List.mem_cons, List.not_mem_nil, or_false] at hc
        rcases hc with rfl | rfl
        · exact hpoint
        · exact hzero
  · rw [if_neg hwhole] at hc
    simp only [List.mem_append, List.mem_cons] at hc
    rcases hc with hc | rfl | hc
    · exact h c (List.mem_of_mem_take hc)
    · exact hpoint
    · exact h c (List.mem_of_mem_drop hc)

theorem numberChars_plain_write (x : Float) : ∀ c ∈ (plain.write x).toList, IsNumberChar c := by
  have hlay : ∀ c ∈ plain.lay ((Binary.ofBits x.toBits).shortest plain.tie), IsNumberChar c :=
    numberChars_layPositional _ (numberChars_ofScaled _ _)
  intro c hc
  simp only [Format.write, String.toList_ofList] at hc
  have hbody : ∀ c ∈ (if x.toBits.toNat % 0x8000000000000000 = 0 then
      '0' :: (if plain.pointZero then ['.', '0'] else [])
      else plain.lay ((Binary.ofBits x.toBits).shortest plain.tie)), IsNumberChar c := by
    split
    · intro c hc
      rw [List.mem_singleton.mp hc]
      exact .inl rfl
    · exact hlay
  split at hc
  · exact hbody c hc
  · rcases List.mem_cons.mp hc with rfl | hc
    · exact .inr (.inr rfl)
    · exact hbody c hc

theorem oneLine_display (x : Float) : OneLine (display x).toList := by
  unfold display
  split
  · decide
  · split
    · split <;> decide
    · exact OneLine.of_numberChar (numberChars_plain_write x)

end Number

theorem oneLine_quotedChar (delimiter c : Char) : OneLine (quotedChar delimiter c) := by
  unfold quotedChar
  split
  · decide
  · split
    · decide
    · split
      · decide
      · split
        · decide
        · split
          · decide
          · rename_i hn hr _ _
            split
            · exact OneLine.cons (by decide) (OneLine.cons ⟨hn, hr⟩ OneLine.nil)
            · exact OneLine.cons ⟨hn, hr⟩ OneLine.nil

theorem oneLine_quote {delimiter : Char} (hd : delimiter ≠ '\n' ∧ delimiter ≠ '\r')
    (cs : List Char) : OneLine (quote delimiter cs) := by
  refine OneLine.cons hd (OneLine.append ?_ (OneLine.cons hd OneLine.nil))
  intro c hc
  obtain ⟨b, -, hb⟩ := List.mem_flatMap.mp hc
  exact oneLine_quotedChar delimiter b c hb

namespace Literal

theorem isWord_suffixed {s : String} (h : IsWord s) (explicit : Bool) {suffix : String}
    (hs : OneLine suffix.toList) : IsWord (suffixed explicit s suffix) := by
  unfold suffixed
  split
  · refine ⟨?_, ?_⟩
    · intro he
      exact h.1 (String.append_eq_empty_iff.mp he).1
    · rw [String.toList_append]
      exact h.2.append hs
  · exact h

theorem isWord_doubleText (explicit : Bool) (x : Float) : IsWord (doubleText explicit x) := by
  have hx := Number.oneLine_display x
  have happend (suffix : String) (h : IsWord suffix) : IsWord (Number.display x ++ suffix) := by
    refine ⟨?_, ?_⟩
    · intro he
      exact h.1 (String.append_eq_empty_iff.mp he).2
    · rw [String.toList_append]
      exact hx.append h.2
  unfold doubleText
  split
  · exact ⟨by decide, by decide⟩
  · split
    · split <;> exact ⟨by decide, by decide⟩
    · dsimp only
      split
      · exact happend "d" ⟨by decide, by decide⟩
      · split
        · rename_i hc
          refine ⟨?_, hx⟩
          intro he
          rw [he] at hc
          cases hc
        · exact happend ".0" ⟨by decide, by decide⟩

theorem isWord_integer (n : Int64) : IsWord (toString n.toInt) :=
  ⟨toString_int_ne_empty _, OneLine.of_numberChar (numberChars_toString_int _)⟩

theorem isWord_quote {delimiter : Char} (hd : delimiter ≠ '\n' ∧ delimiter ≠ '\r') (cs : List Char) :
    IsWord (String.ofList (quote delimiter cs)) := by
  refine ⟨?_, ?_⟩
  · intro h
    have := congrArg String.toList h
    rw [String.toList_ofList] at this
    cases this
  · rw [String.toList_ofList]
    exact oneLine_quote hd cs

theorem sourceText_isWord {value : Literal} {type : Ty} {explicit : Bool} {text : String}
    (h : value.sourceText explicit type = .ok text) : IsWord text := by
  unfold sourceText at h
  split at h
  · split at h <;> cases h
    exact ⟨by decide, by decide⟩
  · cases h
    split <;> exact ⟨by decide, by decide⟩
  · split at h <;> cases h
    exact isWord_integer _
  · cases h
    exact isWord_suffixed (isWord_integer _) _ (by decide)
  · cases h
    exact isWord_suffixed (isWord_integer _) _ (by decide)
  · rename_i d _
    cases h
    exact isWord_suffixed ⟨decimalText_ne_empty d,
      OneLine.of_numberChar (numberChars_decimalText d)⟩ _ (by decide)
  · cases h
    exact isWord_doubleText _ _
  · cases h
    exact isWord_quote (by decide) _
  · cases h
    exact isWord_quote (by decide) _
  · cases h
    exact isWord_quote (by decide) _
  · cases h

end Literal

end Legible
