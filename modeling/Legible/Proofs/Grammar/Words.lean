import Legible.Proofs.Grammar.Basic
import Legible.Proofs.TypeParsing
import Mathlib

/-!
# Reading the words of a phrase

Names, literals, types and parameters are read off the front of a text without looking further than
to the character behind them. Reading is lenient: all that is shown is that whatever the grammar
writes is read back.
-/

namespace Legible.Grammar

/-- A run ends where its characters do. -/
theorem run_append {p : Char → Bool} {w r : List Char} (hw : ∀ c ∈ w, p c = true)
    (hr : ∀ c ∈ r.head?, p c = false) :
    (w ++ r).takeWhile p = w ∧ (w ++ r).dropWhile p = r := by
  rw [List.takeWhile_append_of_pos hw, List.dropWhile_append_of_pos hw]
  cases r with
  | nil => simp
  | cons c cs =>
    have hc : p c = false := hr c rfl
    simp [List.takeWhile, List.dropWhile, hc]

/-- A character of a class is none of the marks outside of it. -/
theorem not_mem_marks {p : Char → Bool} {marks : List Char} (hm : ∀ c ∈ marks, p c = false)
    {c : Char} (hc : p c = true) : c ∉ marks := by
  intro h
  rw [hm c h] at hc
  cases hc

/-! ## Quoted texts -/

def quotedText? (delimiter : Char) : List Char → Option (List Char × List Char)
  | '\\' :: k :: s => do
    let c ← (escapes delimiter).lookup k
    let (v, r) ← quotedText? delimiter s
    some (c :: v, r)
  | c :: s =>
    if c = delimiter then some ([], s)
    else do
      let (v, r) ← quotedText? delimiter s
      some (c :: v, r)
  | [] => none

theorem lookup_escapes {delimiter k c : Char} (hd : delimiter ∈ ['\'', '"'])
    (h : (k, c) ∈ escapes delimiter) : (escapes delimiter).lookup k = some c := by
  simp only [List.mem_cons, List.not_mem_nil, or_false] at hd
  simp only [escapes, List.mem_cons, Prod.mk.injEq, List.not_mem_nil, or_false] at h
  rcases hd with rfl | rfl <;>
    rcases h with ⟨rfl, rfl⟩ | ⟨rfl, rfl⟩ | ⟨rfl, rfl⟩ | ⟨rfl, rfl⟩ | ⟨rfl, rfl⟩ | ⟨rfl, rfl⟩ <;> rfl

theorem quotedText?_append {delimiter : Char} (hd : delimiter ∈ ['\'', '"']) {s v : List Char}
    (h : Quoted delimiter s v) (r : List Char) :
    quotedText? delimiter (s ++ delimiter :: r) = some (v, r) := by
  have hslash : delimiter ≠ '\\' := by
    rintro rfl
    exact absurd hd (by decide)
  induction h with
  | nil => simp [quotedText?, hslash]
  | plain hc _ ih =>
    simp only [List.mem_cons, not_or] at hc
    simp [quotedText?, hc.1, hc.2.1, ih]
  | escaped hc _ ih => simp [quotedText?, lookup_escapes hd hc, ih]

/-! ## Names and literals -/

def wordTerm (w : List Char) : Term :=
  match w.takeWhile Text.isAsciiDigit with
  | [] =>
    if w = ['n', 'u', 'l', 'l'] then .literal .null
    else if w = ['t', 'r', 'u', 'e'] then .literal (.bool true)
    else if w = ['f', 'a', 'l', 's', 'e'] then .literal (.bool false)
    else .name (String.ofList w)
  | d :: ds => .literal (.integer (Int64.ofInt (Number.natOfDigits (d :: ds))))

def atom? : List Char → Option (Term × List Char)
  | '\'' :: s => do
    let (v, r) ← quotedText? '\'' s
    match v with
    | [c] => some (.literal (.char c), r)
    | _ => none
  | '"' :: s => do
    let (v, r) ← quotedText? '"' s
    some (.literal (.string (String.ofList v)), r)
  | '-' :: s =>
    let digits := s.takeWhile Text.isAsciiDigit
    some (.literal (.integer (Int64.ofInt (-(Number.natOfDigits digits : Int)))),
      s.dropWhile isWordChar)
  | s => some (wordTerm (s.takeWhile isWordChar), s.dropWhile isWordChar)

theorem exists_cons_of_isName {n : String} (h : isName n = true) :
    ∃ c cs, n.toList = c :: cs ∧ isWordStart c = true ∧ (∀ d ∈ cs, isWordChar d = true) ∧
      n ∉ reserved := by
  unfold isName at h
  split at h
  · cases h
  · rename_i c cs hn
    simp only [Bool.and_eq_true, List.all_eq_true, Bool.not_eq_true'] at h
    refine ⟨c, cs, hn, h.1.1, h.1.2, ?_⟩
    simpa using h.2

theorem isWordChar_of_start {c : Char} (h : isWordStart c = true) : isWordChar c = true := by
  simp [isWordChar, h]

theorem isWordChar_of_isName {n : String} (h : isName n = true) :
    ∀ c ∈ n.toList, isWordChar c = true := by
  obtain ⟨c, cs, hn, hc, hcs, -⟩ := exists_cons_of_isName h
  rw [hn]
  exact List.forall_mem_cons.mpr ⟨isWordChar_of_start hc, hcs⟩

theorem isAsciiDigit_of_start {c : Char} (h : isWordStart c = true) :
    Text.isAsciiDigit c = false := by
  rw [Bool.eq_false_iff]
  intro hd
  have hd : '0' ≤ c ∧ c ≤ '9' := by simpa [Text.isAsciiDigit] using hd
  have h9 : c.toNat ≤ 57 := hd.2
  simp only [isWordStart, Text.isAsciiLetter, Bool.or_eq_true, Bool.and_eq_true, decide_eq_true_eq,
    beq_iff_eq] at h
  rcases h with (⟨ha, -⟩ | ⟨ha, -⟩) | rfl
  · have ha : 97 ≤ c.toNat := ha
    omega
  · have ha : 65 ≤ c.toNat := ha
    omega
  · exact absurd h9 (by decide)

theorem wordTerm_name {n : String} (h : isName n = true) : wordTerm n.toList = .name n := by
  obtain ⟨c, cs, hn, hc, -, hr⟩ := exists_cons_of_isName h
  have hd : n.toList.takeWhile Text.isAsciiDigit = [] := by
    rw [hn, List.takeWhile_cons, isAsciiDigit_of_start hc]
    rfl
  have hne : ∀ m ∈ reserved, n.toList ≠ m.toList := by
    intro m hm heq
    exact hr (String.toList_inj.mp heq ▸ hm)
  have htrue : n.toList ≠ ['t', 'r', 'u', 'e'] := hne "true" (by decide)
  have hfalse : n.toList ≠ ['f', 'a', 'l', 's', 'e'] := hne "false" (by decide)
  have hnull : n.toList ≠ ['n', 'u', 'l', 'l'] := hne "null" (by decide)
  simp only [wordTerm, hd, hnull, htrue, hfalse, if_false, String.ofList_toList]

theorem suffix_spec {suffix : List Char} (h : suffix ∈ suffixes) :
    (∀ c ∈ suffix, isWordChar c = true) ∧ ∀ c ∈ suffix.head?, Text.isAsciiDigit c = false := by
  simp only [suffixes, List.mem_cons, List.not_mem_nil, or_false] at h
  rcases h with rfl | rfl | rfl
  · exact ⟨by decide, fun c hc => by cases hc⟩
  · exact ⟨by decide, fun c hc => by cases hc; decide⟩
  · exact ⟨by decide, fun c hc => by cases hc; decide⟩

/-- The digits in front of a suffix, and the word they make with it. -/
theorem number_word {s suffix : List Char} (hs : isDigits s = true) (hx : suffix ∈ suffixes) :
    s ≠ [] ∧ (∀ c ∈ s ++ suffix, isWordChar c = true) ∧
      ∀ r : List Char, (∀ c ∈ r.head?, isWordChar c = false) →
        (s ++ (suffix ++ r)).takeWhile Text.isAsciiDigit = s := by
  obtain ⟨hne, hall⟩ := Bool.and_eq_true_iff.mp hs
  have hdigit : ∀ c ∈ s, Text.isAsciiDigit c = true := List.all_eq_true.mp hall
  obtain ⟨hword, hstop⟩ := suffix_spec hx
  refine ⟨by simpa using hne, ?_, ?_⟩
  · intro c hc
    rcases List.mem_append.mp hc with hc | hc
    · simp [isWordChar, hdigit c hc]
    · exact hword c hc
  · intro r hr
    refine (run_append hdigit ?_).1
    intro c hc
    cases suffix with
    | nil =>
      have hc := hr c hc
      simp only [isWordChar, Bool.or_eq_false_iff] at hc
      exact hc.2
    | cons d ds => exact hstop c hc

theorem wordTerm_number {s suffix : List Char} {n : Int64} (hs : isDigits s = true)
    (hx : suffix ∈ suffixes) (hn : n.toInt = Number.natOfDigits s) :
    wordTerm (s ++ suffix) = .literal (.integer n) := by
  obtain ⟨hne, -, hdigits⟩ := number_word hs hx
  have hdigits := hdigits [] nofun
  rw [List.append_nil] at hdigits
  unfold wordTerm
  rw [hdigits]
  cases s with
  | nil => exact (hne rfl).elim
  | cons d ds => simp only [← hn, Int64.ofInt_toInt]

/-- A word is read as a whole. -/
theorem atom?_word {w r : List Char} (hne : w ≠ []) (hw : ∀ c ∈ w, isWordChar c = true)
    (hr : ∀ c ∈ r.head?, isWordChar c = false) : atom? (w ++ r) = some (wordTerm w, r) := by
  obtain ⟨htake, hdrop⟩ := run_append hw hr
  cases w with
  | nil => exact (hne rfl).elim
  | cons c cs =>
    have hc : isWordChar c = true := hw c List.mem_cons_self
    have hmark : c ∉ ['\'', '"', '-'] := not_mem_marks (by decide) hc
    simp only [List.mem_cons, List.not_mem_nil, or_false, not_or] at hmark
    rw [List.cons_append] at htake hdrop ⊢
    unfold atom?
    split
    · rename_i heq
      exact (hmark.1 (List.cons.inj heq).1).elim
    · rename_i heq
      exact (hmark.2.1 (List.cons.inj heq).1).elim
    · rename_i heq
      exact (hmark.2.2 (List.cons.inj heq).1).elim
    · rw [htake, hdrop]

theorem Atom.atom?_append {s : List Char} {t : Term} (h : Atom s t) {r : List Char}
    (hr : ∀ c ∈ r.head?, isWordChar c = false) : atom? (s ++ r) = some (t, r) := by
  cases h with
  | name hn =>
    obtain ⟨c, cs, hcs, -⟩ := exists_cons_of_isName hn
    rw [atom?_word (by rw [hcs]; exact List.cons_ne_nil c cs) (isWordChar_of_isName hn) hr,
      wordTerm_name hn]
  | null => exact atom?_word (by decide) (by decide) hr
  | bool b => cases b <;> exact atom?_word (by decide) (by decide) hr
  | number hs hx hn =>
    obtain ⟨hne, hw, -⟩ := number_word hs hx
    rw [atom?_word (fun h => hne (List.append_eq_nil_iff.mp h).1) hw hr, wordTerm_number hs hx hn]
  | char hq => simp [atom?, quotedText?_append (by decide) hq]
  | string hq => simp [atom?, quotedText?_append (by decide) hq]

theorem Negative.atom?_append {s : List Char} {t : Term} (h : Negative s t) {r : List Char}
    (hr : ∀ c ∈ r.head?, isWordChar c = false) : atom? (s ++ r) = some (t, r) := by
  cases h with
  | number hs hx hn hneg =>
    rename_i s suffix n
    obtain ⟨hne, hw, hdigits⟩ := number_word hs hx
    have hdrop := (run_append hw hr).2
    rw [List.append_assoc] at hdrop
    rw [List.cons_append, List.append_assoc]
    simp only [atom?, hdigits r hr, hdrop, ← hn, Int64.ofInt_toInt]

end Legible.Grammar
