import Legible.Proofs.Draft
import Legible.Proofs.PageText
import Mathlib.Data.Finset.Basic
import Mathlib.Data.List.Nodup

/-!
# Layouts of a draft

A layout is fixed by the set of conditionals that are broken. Only the blanks before their question
mark and colon depend on it. Whatever the line width, a draft is put on the page in one of its
layouts; without a line width, in the one where nothing is broken.
-/

namespace Legible

namespace Draft

def labels : Draft → List Expr.Path
  | .token _ => []
  | .text _ => []
  | .append a b => labels a ++ labels b
  | .group d => labels d
  | .choice node test ifTrue ifFalse =>
    node :: (labels test ++ (labels ifTrue ++ labels ifFalse))

/-- What stands before the question mark and the colon of a conditional, when `depth` broken
conditionals have it in one of their branches. -/
def gap (unit : String) (broken : Bool) (depth : Nat) : List Char :=
  if broken then '\n' :: Page.indentation unit (depth + 1) else [' ']

/-- The text of a draft in which the conditionals of `broken` are broken, and which itself stands in
branches of `depth` broken conditionals. -/
def lay (unit : String) (broken : Finset Expr.Path) : Nat → Draft → List Char
  | _, .token t => t.toList
  | _, .text s => s.toList
  | depth, .append a b => lay unit broken depth a ++ lay unit broken depth b
  | depth, .group d => '(' :: (lay unit broken depth d ++ [')'])
  | depth, .choice node test ifTrue ifFalse =>
    let here := decide (node ∈ broken)
    let inner := if here then depth + 1 else depth
    lay unit broken depth test ++
      (gap unit here depth ++ '?' :: ' ' :: (lay unit broken inner ifTrue ++
        (gap unit here depth ++ ':' :: ' ' :: lay unit broken inner ifFalse)))
termination_by structural _ d => d

def flat : Draft → List Char
  | .token t => t.toList
  | .text s => s.toList
  | .append a b => flat a ++ flat b
  | .group d => '(' :: (flat d ++ [')'])
  | .choice _ test ifTrue ifFalse =>
    flat test ++ (' ' :: '?' :: ' ' :: (flat ifTrue ++ (' ' :: ':' :: ' ' :: flat ifFalse)))

theorem lay_empty (unit : String) (depth : Nat) (d : Draft) : d.lay unit ∅ depth = d.flat := by
  induction d generalizing depth with
  | token t => rfl
  | text s => rfl
  | append a b iha ihb => simp only [lay, flat, iha, ihb]
  | group d ih => simp only [lay, flat, ih]
  | choice node test ifTrue ifFalse iht iha ihb => simp [lay, flat, gap, iht, iha, ihb]

/-- Only the conditionals of the draft itself matter. -/
theorem lay_congr {unit : String} {B C : Finset Expr.Path} {d : Draft}
    (h : ∀ p ∈ d.labels, p ∈ B ↔ p ∈ C) (depth : Nat) : d.lay unit B depth = d.lay unit C depth := by
  induction d generalizing depth with
  | token t => rfl
  | text s => rfl
  | append a b iha ihb =>
    rw [labels, List.forall_mem_append] at h
    simp only [lay, iha h.1, ihb h.2]
  | group d ih => simp only [lay, ih h]
  | choice node test ifTrue ifFalse iht iha ihb =>
    rw [labels, List.forall_mem_cons, List.forall_mem_append, List.forall_mem_append] at h
    obtain ⟨hn, ht, ha, hb⟩ := h
    simp only [lay, hn, iht ht, iha ha, ihb hb]

def Writes : Draft → Prop
  | .token t => t ≠ ""
  | .text s => s ≠ ""
  | .append a b => Writes a ∨ Writes b
  | .group _ => True
  | .choice _ _ _ _ => True

/-- All text stays on one line, and no conditional has an empty test. -/
def Clean : Draft → Prop
  | .token t => OneLine t.toList
  | .text s => OneLine s.toList
  | .append a b => Clean a ∧ Clean b
  | .group d => Clean d
  | .choice _ test ifTrue ifFalse => Clean test ∧ Writes test ∧ Clean ifTrue ∧ Clean ifFalse

theorem lay_ne_nil {d : Draft} (h : d.Writes) (unit : String) (B : Finset Expr.Path) (depth : Nat) :
    d.lay unit B depth ≠ [] := by
  induction d generalizing depth with
  | token t => simpa [lay, Writes] using h
  | text s => simpa [lay, Writes] using h
  | append a b iha ihb =>
    intro he
    obtain ⟨ha, hb⟩ := List.append_eq_nil_iff.mp he
    rcases h with h | h
    · exact iha h depth ha
    · exact ihb h depth hb
  | group d _ => simp [lay]
  | choice node test ifTrue ifFalse _ _ _ => simp [lay]

open Page in
theorem put_flat_extends {d : Draft} (h : d.Clean) (unit : String) {page : Page}
    (hp : page.pending = false) : Extends page (d.put unit none page) d.flat := by
  induction d generalizing page with
  | token t => exact token_extends hp t
  | text s => exact text_extends hp h
  | append a b iha ihb =>
    have first := iha h.1 hp
    exact first.trans (ihb h.2 first.settled)
  | group d ih =>
    have first := token_extends hp "("
    have second := first.trans (ih h first.settled)
    exact second.trans (token_extends second.settled ")")
  | choice node test ifTrue ifFalse iht iha ihb =>
    obtain ⟨ht, -, ha, hb⟩ := h
    have first := iht ht hp
    have second := first.trans (token_extends first.settled " ? ")
    have third := second.trans (iha ha second.settled)
    have fourth := third.trans (token_extends third.settled " : ")
    have last := fourth.trans (ihb hb fourth.settled)
    simp only [List.append_assoc] at last
    exact last

open Page in
/-- A broken conditional, given what its parts add to the pages they are written on. -/
theorem putBroken_extends {test ifTrue ifFalse : Page → Page} {page second fourth : Page}
    {cs as bs : List Char} (ht : Extends page (test page) cs) (hcs : cs ≠ [])
    (hsecond : second = (test page).indent.newLine.token "? ")
    (ha : Extends second (ifTrue second) as)
    (hfourth : fourth = (ifTrue second).newLine.token ": ")
    (hb : Extends fourth (ifFalse fourth) bs) :
    Extends page (putBroken test ifTrue ifFalse page)
      (cs ++ (gap page.indentUnit true page.depth ++ '?' :: ' ' :: (as ++
        (gap page.indentUnit true page.depth ++ ':' :: ' ' :: bs)))) := by
  subst hsecond
  subst hfourth
  have settled : (test page).indent.pending = false := ht.settled
  have first := newLine_token_extends settled (ht.buffer_ne hcs) (show "? " ≠ "" by decide)
  have second := first.trans ha
  have third := newLine_token_extends second.settled (second.buffer_ne (by simp))
    (show ": " ≠ "" by decide)
  have all := (second.trans third).trans hb
  have hdepth : (test page).indent.depth = page.depth + 1 := congrArg (· + 1) ht.depth
  have hunit : (test page).indent.indentUnit = page.indentUnit := ht.indentUnit
  rw [second.depth, second.indentUnit, hdepth, hunit] at all
  refine ⟨?_, all.settled, ht.depth, all.indentUnit.trans hunit⟩
  refine all.buffer.trans ?_
  change (test page).buffer.toList ++ _ = _
  rw [ht.buffer]
  simp [gap]

open Page in
/-- Whatever the line width, a draft is written in one of its layouts. -/
theorem put_extends {d : Draft} (h : d.Clean) (hd : d.labels.Nodup) {unit : String}
    (width : Option Nat) {page : Page} (hp : page.pending = false) (hu : page.indentUnit = unit) :
    ∃ B : Finset Expr.Path, (∀ p ∈ B, p ∈ d.labels) ∧
      Extends page (d.put unit width page) (d.lay unit B page.depth) := by
  cases width with
  | none => exact ⟨∅, by simp, by rw [lay_empty]; exact put_flat_extends h unit hp⟩
  | some width =>
  induction d generalizing page with
  | token t => exact ⟨∅, by simp, token_extends hp t⟩
  | text s => exact ⟨∅, by simp, text_extends hp h⟩
  | append a b iha ihb =>
    obtain ⟨hna, hnb, hab⟩ := List.nodup_append.mp hd
    obtain ⟨A, hA, first⟩ := iha h.1 hna hp hu
    obtain ⟨B, hB, second⟩ := ihb h.2 hnb first.settled (first.indentUnit.trans hu)
    refine ⟨A ∪ B, ?_, ?_⟩
    · intro p hp
      rcases Finset.mem_union.mp hp with hp | hp
      · exact List.mem_append_left _ (hA p hp)
      · exact List.mem_append_right _ (hB p hp)
    · have ha : a.lay unit (A ∪ B) page.depth = a.lay unit A page.depth :=
        lay_congr (fun p hp => by grind) _
      have hb : b.lay unit (A ∪ B) page.depth = b.lay unit B page.depth :=
        lay_congr (fun p hp => by grind) _
      rw [first.depth] at second
      simp only [lay, ha, hb]
      exact first.trans second
  | group d ih =>
    have first := token_extends hp "("
    obtain ⟨B, hB, second⟩ := ih h hd first.settled (first.indentUnit.trans hu)
    rw [first.depth] at second
    have third := first.trans second
    exact ⟨B, hB, third.trans (token_extends third.settled ")")⟩
  | choice node test ifTrue ifFalse iht iha ihb =>
    obtain ⟨ht, hw, ha, hb⟩ := h
    rw [labels, List.nodup_cons, List.nodup_append, List.nodup_append] at hd
    obtain ⟨hn, hnt, ⟨hna, hnb, hab⟩, htab⟩ := hd
    obtain ⟨T, hT, first⟩ := iht ht hnt hp hu
    -- The conditionals of the three parts are told apart, so their choices do not meet.
    have agree (A B C : Finset Expr.Path) (hA : ∀ p ∈ A, p ∈ ifTrue.labels)
        (hB : ∀ p ∈ B, p ∈ ifFalse.labels) (hC : ∀ p ∈ C, p = node) :
        (∀ p ∈ test.labels, p ∈ C ∪ (T ∪ (A ∪ B)) ↔ p ∈ T) ∧
        (∀ p ∈ ifTrue.labels, p ∈ C ∪ (T ∪ (A ∪ B)) ↔ p ∈ A) ∧
        (∀ p ∈ ifFalse.labels, p ∈ C ∪ (T ∪ (A ∪ B)) ↔ p ∈ B) ∧
        (node ∈ C ∪ (T ∪ (A ∪ B)) ↔ node ∈ C) ∧
        (∀ p ∈ C ∪ (T ∪ (A ∪ B)),
          p ∈ node :: (test.labels ++ (ifTrue.labels ++ ifFalse.labels))) := by
      grind
    simp only [put]
    split
    · have htested := lay_ne_nil hw unit T page.depth
      have hindent : (put unit (some width) test page).indent.pending = false := first.settled
      have hq := newLine_token_extends hindent (first.buffer_ne htested) (show "? " ≠ "" by decide)
      have hqu := hq.indentUnit.trans (first.indentUnit.trans hu)
      obtain ⟨A, hA, second⟩ := iha ha hna hq.settled hqu
      have hqa := hq.trans second
      have hc := newLine_token_extends hqa.settled (hqa.buffer_ne (by simp))
        (show ": " ≠ "" by decide)
      obtain ⟨B, hB, third⟩ := ihb hb hnb hc.settled
        (hc.indentUnit.trans (second.indentUnit.trans hqu))
      obtain ⟨et, ea, eb, en, emem⟩ := agree A B {node} hA hB (by simp)
      refine ⟨{node} ∪ (T ∪ (A ∪ B)), emem, ?_⟩
      have hinner : (put unit (some width) test page).indent.depth = page.depth + 1 :=
        congrArg (· + 1) first.depth
      have all := putBroken_extends first htested rfl second rfl third
      rw [hc.depth, second.depth, hq.depth, hinner, hu] at all
      simpa only [lay, en, lay_congr et, lay_congr ea, lay_congr eb, Finset.mem_singleton,
        decide_true, if_true] using all
    · have hq := first.trans (token_extends first.settled " ? ")
      obtain ⟨A, hA, second⟩ := iha ha hna hq.settled (hq.indentUnit.trans hu)
      have hc := (hq.trans second).trans (token_extends second.settled " : ")
      obtain ⟨B, hB, third⟩ := ihb hb hnb hc.settled (hc.indentUnit.trans hu)
      obtain ⟨et, ea, eb, en, emem⟩ := agree A B ∅ hA hB (by simp)
      refine ⟨∅ ∪ (T ∪ (A ∪ B)), emem, ?_⟩
      have all := hc.trans third
      rw [hc.depth, hq.depth] at all
      simp only [List.append_assoc] at all
      simp only [putFlat, lay, en, lay_congr et, lay_congr ea, lay_congr eb, Finset.notMem_empty,
        decide_false, Bool.false_eq_true, if_false, gap]
      exact all

end Draft

end Legible
