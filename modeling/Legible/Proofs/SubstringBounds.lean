import Legible.Eval
import Mathlib.Algebra.Group.Int.Defs
import Mathlib.Algebra.Group.Nat.Defs
import Mathlib.Tactic.ByContra

/-!
# When a substring exists

A substring is given exactly where all of it lies inside the string. Otherwise the fault names the
first position that is out of place, and that is where machine arithmetic can fail: the sum of start
and length is compared as an unsigned word, which it never leaves, and named as a signed one.
-/

namespace Legible

namespace Value

def Within (s : String) (start length : Int64) : Prop :=
  0 ≤ start.toInt ∧ 0 ≤ length.toInt ∧ start.toInt + length.toInt ≤ s.toList.length

/-- The substring ends behind the string, at a position that a signed word cannot hold. -/
def EndsBeyondWord (s : String) (start length : Int64) : Prop :=
  0 ≤ start.toInt ∧ 0 ≤ length.toInt ∧ s.toList.length < start.toInt + length.toInt ∧
    2 ^ 63 ≤ start.toInt + length.toInt

def refusedIndex (start length : Int64) : Int :=
  if start.toInt < 0 then start.toInt
  else if length.toInt < 0 then length.toInt
  else start.toInt + length.toInt

def slice (s : String) (start length : Nat) : String :=
  String.ofList ((s.toList.drop start).take length)

theorem length_slice {s : String} {start length : Nat} (h : start + length ≤ s.toList.length) :
    (slice s start length).toList.length = length := by
  rw [slice, String.toList_ofList, List.length_take, List.length_drop]
  omega

theorem getElem?_slice (s : String) (start : Nat) {length i : Nat} (hi : i < length) :
    (slice s start length).toList[i]? = s.toList[start + i]? := by
  rw [slice, String.toList_ofList, List.getElem?_take_of_lt hi, List.getElem?_drop]

variable {s : String} {start length : Int64}

theorem substring_of_within (h : Within s start length) :
    substring s start length = .ok (.string (slice s start.toInt.toNat length.toInt.toNat)) := by
  obtain ⟨hstart, hlength, hstop⟩ := h
  unfold substring
  dsimp only
  rw [if_neg (by omega), if_neg (by omega), if_neg (by omega)]
  rfl

theorem substring_of_endsBeyondWord (h : EndsBeyondWord s start length) :
    substring s start length = .error .endOverflow := by
  obtain ⟨hstart, hlength, hstop, hword⟩ := h
  unfold substring
  dsimp only
  rw [if_neg (by omega), if_neg (by omega), if_pos hstop, if_neg (by omega)]

theorem substring_of_refused (hwithin : ¬Within s start length)
    (hword : ¬EndsBeyondWord s start length) :
    substring s start length =
      .error (.indexOutOfRange (refusedIndex start length) s.toList.length) := by
  unfold substring refusedIndex
  dsimp only
  by_cases hstart : start.toInt < 0
  · rw [if_pos hstart, if_pos hstart]
  rw [if_neg hstart, if_neg hstart]
  by_cases hlength : length.toInt < 0
  · rw [if_pos hlength, if_pos hlength]
  rw [if_neg hlength, if_neg hlength]
  unfold Within at hwithin
  unfold EndsBeyondWord at hword
  rw [if_pos (by omega), if_pos (by omega)]

theorem exists_substring_iff : (∃ v, substring s start length = .ok v) ↔ Within s start length := by
  constructor
  · rintro ⟨v, hv⟩
    by_contra hwithin
    by_cases hword : EndsBeyondWord s start length
    · rw [substring_of_endsBeyondWord hword] at hv
      cases hv
    · rw [substring_of_refused hwithin hword] at hv
      cases hv
  · intro h
    exact ⟨_, substring_of_within h⟩

/-! ## Machine words -/

def unsignedSum? (a b : Nat) : Option Nat := if a + b < 2 ^ 64 then some (a + b) else none

def signedSum? (a b : Int) : Option Int :=
  if -2 ^ 63 ≤ a + b ∧ a + b < 2 ^ 63 then some (a + b) else none

/-- `substring`, one machine step after the other. There is no answer if a sum is no word. -/
def substringInWords? (s : String) (start length : Int64) : Option (Except EvalError Value) :=
  let total := s.toList.length
  if start.toInt < 0 then some (.error (.indexOutOfRange start.toInt total))
  else if length.toInt < 0 then some (.error (.indexOutOfRange length.toInt total))
  else do
    let stop ← unsignedSum? start.toInt.toNat length.toInt.toNat
    if total < stop then
      let index ← signedSum? start.toInt length.toInt
      return .error (.indexOutOfRange index total)
    else return .ok (.string (slice s start.toInt.toNat length.toInt.toNat))

theorem unsignedSum?_toNat (start length : Int64) :
    unsignedSum? start.toInt.toNat length.toInt.toNat =
      some (start.toInt.toNat + length.toInt.toNat) := by
  have := start.toInt_lt
  have := length.toInt_lt
  apply if_pos
  omega

theorem substringInWords?_of_endsBeyondWord (h : EndsBeyondWord s start length) :
    substringInWords? s start length = none := by
  obtain ⟨hstart, hlength, hstop, hword⟩ := h
  have hsum : signedSum? start.toInt length.toInt = none := if_neg (by omega)
  unfold substringInWords?
  dsimp only
  rw [if_neg (by omega), if_neg (by omega), unsignedSum?_toNat]
  change (if s.toList.length < start.toInt.toNat + length.toInt.toNat then _ else _) = none
  rw [if_pos (by omega), hsum]
  rfl

theorem substringInWords?_of_not (h : ¬EndsBeyondWord s start length) :
    substringInWords? s start length = some (substring s start length) := by
  unfold substringInWords? substring
  dsimp only
  by_cases hstart : start.toInt < 0
  · rw [if_pos hstart, if_pos hstart]
  rw [if_neg hstart, if_neg hstart]
  by_cases hlength : length.toInt < 0
  · rw [if_pos hlength, if_pos hlength]
  rw [if_neg hlength, if_neg hlength, unsignedSum?_toNat]
  change (if s.toList.length < start.toInt.toNat + length.toInt.toNat then _ else _) = _
  by_cases hstop : s.toList.length < start.toInt + length.toInt
  · have hsmall : start.toInt + length.toInt < 2 ^ 63 := by
      unfold EndsBeyondWord at h
      omega
    have hsum : signedSum? start.toInt length.toInt = some (start.toInt + length.toInt) :=
      if_pos (by omega)
    rw [if_pos (by omega), if_pos hstop, if_pos (by omega), hsum]
    rfl
  · rw [if_neg (by omega), if_neg hstop]
    rfl

theorem substringInWords?_eq_none_iff :
    substringInWords? s start length = none ↔ EndsBeyondWord s start length := by
  constructor
  · intro hnone
    by_contra h
    rw [substringInWords?_of_not h] at hnone
    cases hnone
  · exact substringInWords?_of_endsBeyondWord

theorem substring_of_inWords {r : Except EvalError Value}
    (hr : substringInWords? s start length = some r) : substring s start length = r := by
  by_cases h : EndsBeyondWord s start length
  · rw [substringInWords?_of_endsBeyondWord h] at hr
    cases hr
  · rw [substringInWords?_of_not h] at hr
    exact Option.some.inj hr

end Value

theorem evalExpr_substring {bindings : Bindings} {receiver first second : Expr} (declaring : Ty)
    (types : List Ty) (type : Ty) {s : String} {start length : Int64}
    (hs : evalExpr bindings receiver = .ok (.string s))
    (hstart : evalExpr bindings first = .ok (.int start))
    (hlength : evalExpr bindings second = .ok (.int length)) :
    evalExpr bindings (.call receiver "Substring" declaring types [first, second] type) =
      Value.substring s start length := by
  rw [evalExpr, evalAll, evalAll, evalAll, hs, hstart, hlength]
  rfl

open Value in
/-- A substring is given where it exists, in code points, and refused elsewhere. The refusal names
the position at fault except where that position, the end, is no signed word; all other sums on the
way are words. -/
theorem substring_given_iff_within {bindings : Bindings} {receiver first second : Expr}
    (declaring : Ty) (types : List Ty) (type : Ty) {s : String} {start length : Int64}
    (hs : evalExpr bindings receiver = .ok (.string s))
    (hstart : evalExpr bindings first = .ok (.int start))
    (hlength : evalExpr bindings second = .ok (.int length)) :
    let result :=
      evalExpr bindings (.call receiver "Substring" declaring types [first, second] type)
    ((∃ v, result = .ok v) ↔ Within s start length) ∧
    (Within s start length → ∃ t, result = .ok (.string t) ∧ t.toList.length = length.toInt ∧
      ∀ i : Nat, i < length.toInt → t.toList[i]? = s.toList[start.toInt.toNat + i]?) ∧
    (¬Within s start length → ¬EndsBeyondWord s start length →
      result = .error (.indexOutOfRange (refusedIndex start length) s.toList.length)) ∧
    (EndsBeyondWord s start length → result = .error .endOverflow) ∧
    (substringInWords? s start length = none ↔ EndsBeyondWord s start length) ∧
    ∀ r, substringInWords? s start length = some r → result = r := by
  intro result
  have hresult : result = substring s start length :=
    evalExpr_substring declaring types type hs hstart hlength
  rw [hresult]
  refine ⟨exists_substring_iff, ?_, substring_of_refused, substring_of_endsBeyondWord,
    substringInWords?_eq_none_iff, fun r => substring_of_inWords⟩
  intro h
  refine ⟨_, substring_of_within h, ?_, ?_⟩
  · obtain ⟨hstart, hlength, hstop⟩ := h
    rw [length_slice (by omega)]
    omega
  · intro i hi
    exact getElem?_slice s _ (by omega)

theorem substring_given_iff_within_last :
    ∃ t, evalExpr [("s", .string "naïve")] (.call (.parameter ⟨"s", .string⟩) "Substring" .string []
        [.constant (.integer 2) .int none, .constant (.integer 3) .int none] .string) =
          .ok (.string t) ∧ t.toList.length = (3 : Int64).toInt ∧
      ∀ i : Nat, i < (3 : Int64).toInt → t.toList[i]? = "naïve".toList[2 + i]? := by
  have hwithin : Value.Within "naïve" 2 3 := ⟨by decide, by decide, by decide⟩
  exact (substring_given_iff_within .string [] .string rfl rfl rfl).2.1 hwithin

/-- One character from the largest position on: the end is one more, and cannot be named. -/
theorem substring_end_not_named :
    let result := evaluate (.lambda [⟨"s", .string⟩] (.call (.parameter ⟨"s", .string⟩) "Substring"
      .string [] [.constant (.integer 9223372036854775807) .long none,
        .constant (.integer 1) .long none] .string) (.function [.string] .string)) [.string "abc"]
    result = .error .endOverflow ∧ result ≠ .error (.indexOutOfRange 9223372036854775808 3) := by
  intro result
  have hresult : result = .error .endOverflow := rfl
  refine ⟨hresult, ?_⟩
  rw [hresult]
  intro h
  cases h

end Legible
