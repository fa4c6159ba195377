import Legible.Proofs.Grammar.Basic
import Legible.Proofs.LiteralText

/-!
# The texts of literals in the grammar

The source text of a literal is an atom that stands for the literal, or a negative number that does.
-/

namespace Legible

open Grammar

theorem isAsciiDigit_of_isDigit {c : Char} (h : c.isDigit = true) : Text.isAsciiDigit c = true := by
  simpa [Text.isAsciiDigit, Char.isDigit, Char.le_def] using h

theorem isDigits_toDigits (n : Nat) : isDigits (Nat.toDigits 10 n) = true := by
  have hne : Nat.toDigits 10 n ≠ [] := Nat.toDigits_ne_nil
  have hall : ∀ c ∈ Nat.toDigits 10 n, Text.isAsciiDigit c = true := fun c hc =>
    isAsciiDigit_of_isDigit (Nat.isDigit_of_mem_toDigits (by decide) (by decide) hc)
  rw [isDigits, List.all_eq_true.mpr hall]
  simp [hne]

theorem natOfDigits_toDigits (n : Nat) : Number.natOfDigits (Nat.toDigits 10 n) = n := by
  have h := Nat.ofDigitChars_ten_toDigits (n := n)
  rw [Nat.ofDigitChars_eq_foldl] at h
  exact h

theorem quoted_quotedChar {delimiter : Char} (c : Char) {s v : List Char} (h : Quoted delimiter s v) :
    Quoted delimiter (quotedChar delimiter c ++ s) (c :: v) := by
  unfold quotedChar
  split
  · rename_i hc
    subst hc
    exact .escaped (by simp [escapes]) h
  · rename_i hslash
    split
    · rename_i hc
      subst hc
      exact .escaped (by simp [escapes]) h
    · rename_i hn
      split
      · rename_i hc
        subst hc
        exact .escaped (by simp [escapes]) h
      · rename_i hr
        split
        · rename_i hc
          subst hc
          exact .escaped (by simp [escapes]) h
        · split
          · rename_i hc
            subst hc
            exact .escaped (by simp [escapes]) h
          · split
            · rename_i hc
              subst hc
              exact .escaped (by simp [escapes]) h
            · rename_i hc
              exact .plain (by simp [hslash, hn, hr, hc]) h

theorem quoted_flatMap (delimiter : Char) (cs : List Char) :
    Quoted delimiter (cs.flatMap (quotedChar delimiter)) cs := by
  induction cs with
  | nil => exact .nil
  | cons c cs ih =>
    rw [List.flatMap_cons]
    exact quoted_quotedChar c ih

namespace Literal

def isPlain : Literal → Bool
  | .null | .bool _ | .integer _ | .char _ | .string _ => true
  | .decimal _ | .double _ => false

/-- The text stands for the literal, as a negative number if it is one. -/
def Written (value : Literal) (text : List Char) : Prop :=
  if value.isNegative then Negative text (.literal value) else Atom text (.literal value)

theorem written_integer (n : Int64) {suffix : List Char} (hx : suffix ∈ suffixes) :
    Written (.integer n) ((toString n.toInt).toList ++ suffix) := by
  have hdigits := isDigits_toDigits n.toInt.natAbs
  have hvalue := natOfDigits_toDigits n.toInt.natAbs
  rw [Written, toList_toString_int, isNegative]
  by_cases hn : n.toInt < 0
  · simp only [hn, decide_true, if_true, List.cons_append, List.nil_append]
    refine .number hdigits hx ?_ hn
    rw [hvalue]
    omega
  · simp only [hn, decide_false, Bool.false_eq_true, if_false, List.nil_append]
    refine .number hdigits hx ?_
    rw [hvalue]
    omega

theorem written_suffixed (explicit : Bool) (n : Int64) {suffix : String}
    (hx : suffix.toList ∈ suffixes) :
    Written (.integer n) (suffixed explicit (toString n.toInt) suffix).toList := by
  unfold suffixed
  split
  · rw [String.toList_append]
    exact written_integer n hx
  · have h := written_integer n (List.mem_cons_self : [] ∈ suffixes)
    rw [List.append_nil] at h
    exact h

theorem written_string (v : String) :
    Written (.string v) (String.ofList (quote '"' v.toList)).toList := by
  have h := Atom.string (quoted_flatMap '"' v.toList)
  rw [String.ofList_toList] at h
  rw [String.toList_ofList]
  exact h

theorem written_sourceText {value : Literal} {type : Ty} {explicit : Bool} {text : String}
    (hp : value.isPlain = true) (h : value.sourceText explicit type = .ok text) :
    value.Written text.toList := by
  unfold sourceText at h
  split at h
  · split at h <;> cases h
    exact Atom.null
  · rename_i b _
    cases h
    exact Atom.bool b
  · rename_i n _
    split at h <;> cases h
    exact written_suffixed false n (by decide : "L".toList ∈ suffixes)
  · cases h
    exact written_suffixed explicit _ (by decide)
  · cases h
    exact written_suffixed explicit _ (by decide)
  · cases hp
  · cases hp
  · rename_i c _
    cases h
    rw [String.toList_ofList]
    exact Atom.char (quoted_flatMap '\'' [c])
  · cases h
    exact written_string _
  · cases h
    exact written_string _
  · cases h

end Literal

end Legible
