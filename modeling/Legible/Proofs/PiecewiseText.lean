import Legible.Proofs.PageStrokes
import Mathlib.Data.List.Forall2

/-!
# Text in pieces

How running text is cut does not show on the page: pieces that are written one after the other leave
what their concatenation leaves, and a piece of printable characters may as well be written as
punctuation. Nor does it matter that text goes to the page character by character. A whole text can
be cut at its line breaks instead, and each line be written at once.
-/

namespace Legible.Page

/-! ## Whole lines -/

/-- Writes a line at once, without its carriage returns; a line without characters is not opened. -/
def putLine (page : Page) (line : List Char) : Page :=
  if line = [] then page else page.flush.extend (line.filter (· ≠ '\r'))

def putLines (page : Page) : List (List Char) → Page
  | [] => page
  | line :: more => more.foldl (fun page line => page.newLine.putLine line) (page.putLine line)

theorem char_eq_putLine (page : Page) {c : Char} (hc : c ≠ '\n') :
    page.char c = page.putLine [c] := by
  rw [putLine, if_neg (List.cons_ne_nil c []), ← char_flush page hc]
  by_cases hreturn : c = '\r'
  · subst hreturn
    rw [char, if_neg hc, if_pos rfl, flush_of_settled (pending_flush page)]
    exact (extend_nil _).symm
  · rw [char_eq_extend (pending_flush page) ⟨hc, hreturn⟩, List.filter_singleton]
    simp [hreturn]

theorem putLine_cons (page : Page) {c : Char} (hc : c ≠ '\n') (line : List Char) :
    page.putLine (c :: line) = (page.char c).putLine line := by
  rw [char_eq_putLine page hc]
  cases line with
  | nil => rfl
  | cons d line =>
    have hsettled : (page.flush.extend ([c].filter (· ≠ '\r'))).pending = false :=
      pending_flush page
    simp only [putLine, if_neg (List.cons_ne_nil _ _)]
    rw [flush_of_settled hsettled, extend_extend, ← List.filter_append]
    rfl

theorem foldl_char_eq_putLines (page : Page) (cs : List Char) :
    cs.foldl char page = page.putLines (cs.splitOn '\n') := by
  induction cs generalizing page with
  | nil => rw [List.splitOn_nil]; rfl
  | cons c cs ih =>
    obtain ⟨line, more, hsplit⟩ := List.exists_cons_of_ne_nil (List.splitOn_ne_nil '\n' cs)
    rw [List.foldl_cons, ih, List.splitOn_cons_eq_if_modifyHead, hsplit]
    by_cases hc : c = '\n'
    · subst hc
      rfl
    · rw [if_neg (by simpa using hc), List.modifyHead_cons, putLines, putLines,
        putLine_cons page hc]

/-! ## Pieces -/

theorem text_append (page : Page) (s t : String) : page.text (s ++ t) = (page.text s).text t := by
  rw [text, String.toList_append, List.foldl_append]
  rfl

theorem token_eq_text (page : Page) {t : String} (ht : IsPrintable t) :
    page.token t = page.text t := by
  by_cases hempty : t = ""
  · subst hempty
    rfl
  · have hsettled := pending_flush page
    calc
      page.token t = page.flush.token t := (token_flush page hempty).symm
      _ = page.flush.extend t.toList := token_eq_extend hsettled ht.plain
      _ = page.flush.text t := (text_eq_extend hsettled ht.oneLine).symm
      _ = page.text t := text_flush page ⟨hempty, ht.oneLine⟩

/-- A step that writes the text, as punctuation where it is printable. -/
inductive Writes : Step → String → Prop where
  | text (s : String) : Writes (.text s) s
  | token {t : String} (ht : IsPrintable t) : Writes (.token t) t

theorem Writes.runStep {step : Step} {s : String} (h : Writes step s) (page : Page) :
    runStep page step = .ok (.completed (page.text s) []) := by
  cases h with
  | text => rfl
  | token ht =>
    rw [Page.runStep, (checkToken_eq_ok_iff s).mpr ht.isPunctuation, token_eq_text page ht]
    rfl

theorem runScript_writes {steps : List Step} {pieces : List String}
    (h : List.Forall₂ Writes steps pieces) (page : Page) :
    ∃ trace, runScript page steps = .ok trace ∧ trace.stopped = false ∧
      trace.page = page.text (String.join pieces) := by
  induction h generalizing page with
  | nil => exact ⟨_, rfl, rfl, rfl⟩
  | @cons step piece steps pieces hstep _ ih =>
    obtain ⟨more, hmore, hgoes, hpage⟩ := ih (page.text piece)
    refine ⟨⟨more.page, [(page.text piece).position] ++ more.positions, more.stopped⟩, ?_, hgoes,
      ?_⟩
    · rw [runScript, hstep.runStep]
      change (runScript (page.text piece) steps >>= _) = _
      rw [hmore]
      rfl
    · rw [String.join_cons, text_append]
      exact hpage

theorem pieces_written_as_one (page : Page) (steps : List Step) (pieces : List String)
    (h : List.Forall₂ Writes steps pieces) :
    ∃ trace, runScript page steps = .ok trace ∧ trace.stopped = false ∧
      trace.page = page.text (String.join pieces) ∧
      trace.page = page.putLines ((String.join pieces).toList.splitOn '\n') := by
  obtain ⟨trace, hrun, hgoes, hpage⟩ := runScript_writes h page
  exact ⟨trace, hrun, hgoes, hpage, hpage.trans (foldl_char_eq_putLines page _)⟩

/-- A line break in a piece of its own, and a carriage return cut off from its line break. -/
theorem pieces_written_as_one_cut :
    ∃ trace, runScript { indentUnit := "\t", depth := 1 }
        [.token "f(", .text "\r", .text "\n\n", .token "x"] = .ok trace ∧
      trace.page = ({ indentUnit := "\t", depth := 1 } : Page).text "f(\r\n\nx" := by
  obtain ⟨trace, hrun, -, hpage, -⟩ := pieces_written_as_one { indentUnit := "\t", depth := 1 }
    [.token "f(", .text "\r", .text "\n\n", .token "x"] ["f(", "\r", "\n\n", "x"]
    (.cons (.token (by decide)) (.cons (.text _) (.cons (.text _)
      (.cons (.token (by decide)) .nil))))
  exact ⟨trace, hrun, hpage⟩

end Legible.Page
