import Legible.Proofs.PageStrokes
import Mathlib.Data.List.Infix

/-!
# Line breaks at the end of a page

A noted line break is written once something follows it, so a page ends with one only where nothing
else was written with it: where another line break followed, or a carriage return that opened a line
without indentation. Whether that happened can be told from the strokes alone.
-/

namespace Legible.Page

inductive Mark where
  | ink
  | lineBreak
  /-- Opens the line that was noted, and writes nothing on it but its indentation. -/
  | carriageReturn (indents : Bool)
deriving DecidableEq

def Stroke.mark? (unit : String) : Stroke → Option Mark
  | .token _ t => if t = "" then none else some .ink
  | .char depth c =>
    if c = '\n' then some .lineBreak
    else if c = '\r' then some (.carriageReturn !(indentation unit depth).isEmpty)
    else some .ink

def marks (unit : String) (ss : List Stroke) : List Mark := ss.filterMap (Stroke.mark? unit)

/-- Something was written: a character, an empty line, or indentation. -/
def Inked (ms : List Mark) : Prop :=
  .ink ∈ ms ∨ [.lineBreak, .lineBreak] <:+: ms ∨ [.lineBreak, .carriageReturn true] <:+: ms

/-- A line break is followed by another one, or by a carriage return that opens a line without
indentation below something written, and nothing but line breaks is written after that. -/
def LeavesBreak (ms : List Mark) : Prop :=
  ∃ before next after, ms = before ++ .lineBreak :: next :: after ∧
    (next = .lineBreak ∨ next = .carriageReturn false ∧ Inked (before ++ [.lineBreak])) ∧
    .ink ∉ after ∧ ¬[.lineBreak, .carriageReturn true] <:+: next :: after

/-! ## One more mark -/

theorem pair_infix_concat_iff {a b m : Mark} {ms : List Mark} :
    [a, b] <:+: ms ++ [m] ↔ [a, b] <:+: ms ∨ ms.getLast? = some a ∧ b = m := by
  rw [List.infix_concat_iff, List.suffix_concat_iff, List.getLast?_eq_some_iff]
  constructor
  · rintro ((h | ⟨t, ht, before, hms⟩) | h)
    · cases h
    · obtain ⟨rfl, rfl⟩ := List.append_singleton_inj.mp (show [a] ++ [b] = t ++ [m] from ht)
      exact .inr ⟨⟨before, hms.symm⟩, rfl⟩
    · exact .inl h
  · rintro (h | ⟨⟨before, rfl⟩, rfl⟩)
    · exact .inr h
    · exact .inl (.inr ⟨[a], rfl, before, rfl⟩)

theorem inked_concat_iff {m : Mark} {ms : List Mark} :
    Inked (ms ++ [m]) ↔ Inked ms ∨ m = .ink ∨
      ms.getLast? = some .lineBreak ∧ (m = .lineBreak ∨ m = .carriageReturn true) := by
  simp only [Inked, pair_infix_concat_iff, List.mem_append, List.mem_singleton]
  grind

theorem leavesBreak_concat_iff {m : Mark} {ms : List Mark} :
    LeavesBreak (ms ++ [m]) ↔
      ms.getLast? = some .lineBreak ∧ (m = .lineBreak ∨ m = .carriageReturn false ∧ Inked ms) ∨
      LeavesBreak ms ∧ m ≠ .ink ∧
        ¬(ms.getLast? = some .lineBreak ∧ m = .carriageReturn true) := by
  have hlast (before after : List Mark) (next : Mark) :
      (before ++ .lineBreak :: next :: after).getLast? = (next :: after).getLast? := by
    rw [List.getLast?_append, List.getLast?_cons_cons, List.getLast?_cons]
    rfl
  constructor
  · rintro ⟨before, next, after, hms, hnext, hink, hindent⟩
    rcases List.eq_nil_or_concat after with rfl | ⟨after, last, rfl⟩
    -- the mark is the one that follows the line break
    · have hms : ms ++ [m] = (before ++ [.lineBreak]) ++ [next] := by
        rw [hms, List.append_assoc]
        rfl
      obtain ⟨rfl, rfl⟩ := List.append_singleton_inj.mp hms
      exact .inl ⟨List.getLast?_concat, hnext⟩
    -- the mark comes later
    · rw [List.concat_eq_append] at hms hink hindent
      rw [← List.cons_append, ← List.cons_append, ← List.append_assoc] at hms
      obtain ⟨rfl, rfl⟩ := List.append_singleton_inj.mp hms
      rw [← List.cons_append, pair_infix_concat_iff, not_or] at hindent
      rw [List.mem_append, List.mem_singleton, not_or] at hink
      refine .inr ⟨⟨before, next, after, rfl, hnext, hink.1, hindent.1⟩, Ne.symm hink.2, ?_⟩
      rw [hlast]
      exact fun h => hindent.2 ⟨h.1, h.2.symm⟩
  · rintro (⟨hbreak, hm⟩ | ⟨⟨before, next, after, rfl, hnext, hink, hindent⟩, hm, hopened⟩)
    · obtain ⟨before, rfl⟩ := List.getLast?_eq_some_iff.mp hbreak
      refine ⟨before, m, [], by simp, hm, List.not_mem_nil, ?_⟩
      exact fun h => absurd h.length_le (by simp)
    · refine ⟨before, next, after ++ [m], by simp, hnext, ?_, ?_⟩
      · rw [List.mem_append, List.mem_singleton, not_or]
        exact ⟨hink, Ne.symm hm⟩
      · rw [← List.cons_append, pair_infix_concat_iff, not_or]
        rw [hlast] at hopened
        exact ⟨hindent, fun h => hopened ⟨h.1, h.2.symm⟩⟩

/-! ## One more stroke -/

structure Shows (page : Page) (ms : List Mark) : Prop where
  pending : page.pending = true ↔ ms.getLast? = some .lineBreak
  inked : page.buffer ≠ "" ↔ Inked ms
  ends : page.buffer.toList.getLast? = some '\n' ↔ LeavesBreak ms

theorem shows_empty (unit : String) : Shows { indentUnit := unit } [] where
  pending := by simp
  inked := by simp [Inked]
  ends := by simp [LeavesBreak]

theorem shows_ink {page : Page} (ms : List Mark) (hp : page.pending = false) {c : Char}
    (hlast : page.buffer.toList.getLast? = some c) (hc : c ≠ '\n') : Shows page (ms ++ [.ink]) where
  pending := by simp [hp]
  inked := by
    refine iff_of_true ?_ (inked_concat_iff.mpr (.inr (.inl rfl)))
    intro h
    rw [h] at hlast
    cases hlast
  ends := by
    rw [hlast, leavesBreak_concat_iff]
    simp [hc]

theorem Shows.newLine {page : Page} {ms : List Mark} (h : Shows page ms) :
    Shows page.newLine (ms ++ [.lineBreak]) := by
  have hpending := h.pending
  unfold Page.newLine
  split
  · rename_i hp
    have hbreak := hpending.mp hp
    refine ⟨by simp [hp], ?_, ?_⟩
    · rw [inked_concat_iff]
      simp [hbreak]
    · rw [leavesBreak_concat_iff]
      simp [hbreak]
  · rename_i hp
    have hbreak := mt hpending.mpr hp
    refine ⟨by simp, ?_, ?_⟩
    · rw [inked_concat_iff]
      simpa [hbreak] using h.inked
    · rw [leavesBreak_concat_iff]
      simpa [hbreak] using h.ends

theorem toList_flush {page : Page} (h : page.pending = true) :
    page.flush.buffer.toList = (if page.buffer = "" then [] else page.buffer.toList ++ ['\n']) ++
      indentation page.indentUnit page.depth := by
  unfold flush
  rw [if_pos h]
  split
  · rename_i hb
    rw [(indentBy_extends rfl _).buffer, hb]
    rfl
  · rw [(indentBy_extends rfl _).buffer, String.toList_push]

theorem mem_of_mem_indentation {unit : String} {n : Nat} {c : Char} (h : c ∈ indentation unit n) :
    c ∈ unit.toList := by
  obtain ⟨cs, hcs, hc⟩ := List.mem_flatten.mp h
  exact List.eq_of_mem_replicate hcs ▸ hc

theorem Shows.flush {page : Page} {ms : List Mark} (h : Shows page ms)
    (hunit : '\n' ∉ page.indentUnit.toList) :
    Shows page.flush
      (ms ++ [.carriageReturn !(indentation page.indentUnit page.depth).isEmpty]) := by
  by_cases hp : page.pending = true
  · have hbreak := h.pending.mp hp
    have hbuffer := toList_flush hp
    refine ⟨by simp [pending_flush], ?_, ?_⟩
    · rw [inked_concat_iff, ← h.inked, ne_eq, ← String.toList_eq_nil_iff, hbuffer]
      cases indentation page.indentUnit page.depth <;> simp [hbreak]
    · rw [leavesBreak_concat_iff, ← h.inked, ← h.ends, hbuffer]
      cases hindent : indentation page.indentUnit page.depth with
      | nil =>
        by_cases hb : page.buffer = "" <;> simp [hbreak, hb]
      | cons c cs =>
        have hlast : (c :: cs).getLast? ≠ some '\n' := by
          intro hlast
          have hmem := List.mem_of_getLast? hlast
          rw [← hindent] at hmem
          exact hunit (mem_of_mem_indentation hmem)
        rw [List.getLast?_append_of_ne_nil _ (List.cons_ne_nil c cs)]
        simp [hbreak, hlast]
  · have hbreak := mt h.pending.mpr hp
    rw [flush_of_settled (by simpa using hp)]
    refine ⟨by simpa using hp, ?_, ?_⟩
    · rw [inked_concat_iff, h.inked]
      simp [hbreak]
    · rw [leavesBreak_concat_iff, h.ends]
      simp [hbreak]

theorem Shows.atDepth {page : Page} {ms : List Mark} (h : Shows page ms) (depth : Nat) :
    Shows (page.atDepth depth) ms := ⟨h.pending, h.inked, h.ends⟩

theorem shows_token {page : Page} (ms : List Mark) {t : String} (ht : t ≠ "")
    (hplain : IsPunctuation t) : Shows (page.token t) (ms ++ [.ink]) := by
  have hne : t.toList ≠ [] := mt String.toList_eq_nil_iff.mp ht
  unfold token
  rw [if_neg ht]
  apply shows_ink ms (c := t.toList.getLast hne)
  · exact pending_flush page
  · rw [String.toList_append, List.getLast?_append, List.getLast?_eq_some_getLast hne]
    rfl
  · exact (hplain _ (List.getLast_mem hne)).2.1

theorem Shows.char {page : Page} {ms : List Mark} (h : Shows page ms)
    (hunit : '\n' ∉ page.indentUnit.toList) (c : Char) :
    Shows (page.char c) (ms ++ marks page.indentUnit [.char page.depth c]) := by
  unfold Page.char
  by_cases hbreak : c = '\n'
  · rw [if_pos hbreak, hbreak]
    exact h.newLine
  rw [if_neg hbreak]
  by_cases hreturn : c = '\r'
  · rw [if_pos hreturn, hreturn]
    exact h.flush hunit
  · have hmarks : marks page.indentUnit [.char page.depth c] = [.ink] := by
      simp [marks, Stroke.mark?, hbreak, hreturn]
    rw [if_neg hreturn, hmarks]
    refine shows_ink ms (pending_flush page) ?_ hbreak
    rw [String.toList_push, List.getLast?_concat]

theorem Shows.strike {page : Page} {ms : List Mark} (h : Shows page ms)
    (hunit : '\n' ∉ page.indentUnit.toList) {s : Stroke} (hs : s.IsAccepted) :
    Shows (page.strike s) (ms ++ marks page.indentUnit [s]) := by
  cases s with
  | token depth t =>
    by_cases ht : t = ""
    · have hpage : page.strike (.token depth t) = page.atDepth depth := by
        simp [Page.strike, token, ht]
      have hmarks : marks page.indentUnit [.token depth t] = [] := by
        simp [marks, Stroke.mark?, ht]
      rw [hpage, hmarks, List.append_nil]
      exact h.atDepth depth
    · have hmarks : marks page.indentUnit [.token depth t] = [.ink] := by
        simp [marks, Stroke.mark?, ht]
      rw [hmarks]
      exact shows_token ms ht hs
  | char depth c => exact (h.atDepth depth).char hunit c

theorem Shows.foldl_strike {page : Page} {ms : List Mark} (h : Shows page ms)
    (hunit : '\n' ∉ page.indentUnit.toList) {ss : List Stroke} (hss : Accepted ss) :
    Shows (ss.foldl Page.strike page) (ms ++ marks page.indentUnit ss) := by
  induction ss generalizing page ms with
  | nil => simpa [marks] using h
  | cons s ss ih =>
    obtain ⟨hs, hss⟩ := List.forall_mem_cons.mp hss
    have hkept := indentUnit_strike page s
    have rest := ih (h.strike hunit hs) (hkept.symm ▸ hunit) hss
    have hmarks : marks page.indentUnit (s :: ss) =
        marks page.indentUnit [s] ++ marks page.indentUnit ss :=
      List.filterMap_append (l := [s])
    rw [hkept, List.append_assoc, ← hmarks] at rest
    exact rest

/-! ## Whole scripts -/

open Step (strokesOfAll)

theorem finished_text_ends_with_break_iff (unit : String)
    (hunit : ∀ c ∈ unit.toList, c = ' ' ∨ c = '\t') (steps : List Step)
    (hsteps : Accepted (strokesOfAll 0 steps)) :
    ∃ trace, runScript { indentUnit := unit } steps = .ok trace ∧
      (trace.page.finish.toList.getLast? = some '\n' ↔
        LeavesBreak (marks unit (strokesOfAll 0 steps))) := by
  obtain ⟨trace, hrun, hpage⟩ := exists_runScript { indentUnit := unit } hsteps
  refine ⟨trace, hrun, ?_⟩
  have hbreak : '\n' ∉ unit.toList := by
    intro h
    rcases hunit '\n' h with h | h <;> cases h
  have hshows := ((shows_empty unit).foldl_strike hbreak hsteps).atDepth 0
  rw [hpage]
  exact hshows.ends

/-- A carriage return by itself on a line that is not indented. -/
theorem finished_text_ends_with_break_iff_returned :
    ∃ trace, runScript { indentUnit := "\t" } [.indented [.token "f("], .text "x\n\r"] = .ok trace ∧
      trace.page.finish.toList.getLast? = some '\n' := by
  obtain ⟨trace, hrun, hends⟩ := finished_text_ends_with_break_iff "\t" (by decide)
    [.indented [.token "f("], .text "x\n\r"] (by decide)
  refine ⟨trace, hrun, hends.mpr ⟨[.ink, .ink], .carriageReturn false, [], by decide, ?_⟩⟩
  exact ⟨.inr ⟨rfl, .inl (by decide)⟩, by decide, by decide⟩

/-- The second of two line breaks writes the first, and nothing follows. -/
theorem blank_line_left_at_end :
    ∃ trace, runScript { indentUnit := "  " } [.text "a", .newLine, .newLine] = .ok trace ∧
      trace.page.finish = "a\n" := ⟨_, rfl, by decide⟩

end Legible.Page
