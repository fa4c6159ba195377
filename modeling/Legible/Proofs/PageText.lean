import Legible.Page
import Mathlib.Algebra.GroupWithZero.Nat

/-!
# What page operations add to the text

On a page without a noted line break, punctuation and text of one line are added as they are. A line
break followed by punctuation adds the break, the indentation of the present depth and the
punctuation.
-/

namespace Legible

-- A bounded statement on characters is decided along its list. The rule for statements on all of
-- `Char` applies as well and would go through every character there is.
instance (priority := high) decidableForallMemChar (p : Char → Prop) [DecidablePred p]
    (cs : List Char) : Decidable (∀ c ∈ cs, p c) :=
  List.decidableBAll p cs

def OneLine (cs : List Char) : Prop := ∀ c ∈ cs, c ≠ '\n' ∧ c ≠ '\r'

instance (cs : List Char) : Decidable (OneLine cs) :=
  inferInstanceAs (Decidable (∀ c ∈ cs, c ≠ '\n' ∧ c ≠ '\r'))

namespace OneLine

theorem nil : OneLine [] := by
  intro c hc
  cases hc

theorem append {as bs : List Char} (ha : OneLine as) (hb : OneLine bs) : OneLine (as ++ bs) := by
  intro c hc
  rcases List.mem_append.mp hc with hc | hc
  · exact ha c hc
  · exact hb c hc

theorem cons {c : Char} {cs : List Char} (hc : c ≠ '\n' ∧ c ≠ '\r') (hcs : OneLine cs) :
    OneLine (c :: cs) := List.forall_mem_cons.mpr ⟨hc, hcs⟩

end OneLine

def IsWord (s : String) : Prop := s ≠ "" ∧ OneLine s.toList

instance (s : String) : Decidable (IsWord s) :=
  inferInstanceAs (Decidable (s ≠ "" ∧ OneLine s.toList))

namespace Text

def width (cs : List Char) : Nat := (cs.map charWidth).sum

@[simp] theorem width_append (as bs : List Char) : width (as ++ bs) = width as + width bs := by
  simp [width]

@[simp] theorem width_cons (c : Char) (cs : List Char) :
    width (c :: cs) = charWidth c + width cs := by
  simp [width]

@[simp] theorem width_nil : width [] = 0 := rfl

def Plain (s : String) : Prop := width s.toList = s.length

instance (s : String) : Decidable (Plain s) :=
  inferInstanceAs (Decidable (width s.toList = s.length))

end Text

namespace Page

/-- `later` is `page` with `cs` written behind, at the same depth and with no line break noted. -/
structure Extends (page later : Page) (cs : List Char) : Prop where
  buffer : later.buffer.toList = page.buffer.toList ++ cs
  settled : later.pending = false
  depth : later.depth = page.depth
  indentUnit : later.indentUnit = page.indentUnit

theorem Extends.trans {a b c : Page} {cs ds : List Char} (h : Extends a b cs)
    (k : Extends b c ds) : Extends a c (cs ++ ds) where
  buffer := by rw [k.buffer, h.buffer, List.append_assoc]
  settled := k.settled
  depth := k.depth.trans h.depth
  indentUnit := k.indentUnit.trans h.indentUnit

theorem Extends.refl {page : Page} (h : page.pending = false) : Extends page page [] where
  buffer := (List.append_nil _).symm
  settled := h
  depth := rfl
  indentUnit := rfl

theorem Extends.buffer_ne {page later : Page} {cs : List Char} (h : Extends page later cs)
    (hcs : cs ≠ []) : later.buffer ≠ "" := by
  intro he
  have := h.buffer
  rw [he] at this
  exact hcs (List.append_eq_nil_iff.mp this.symm).2

theorem flush_of_settled {page : Page} (h : page.pending = false) : page.flush = page := by
  unfold flush
  rw [h]
  rfl

theorem token_extends {page : Page} (h : page.pending = false) (t : String) :
    Extends page (page.token t) t.toList := by
  unfold token
  split
  · rename_i ht
    subst ht
    simpa using Extends.refl h
  · rw [flush_of_settled h]
    exact ⟨String.toList_append, h, rfl, rfl⟩

theorem char_extends {page : Page} (h : page.pending = false) {c : Char}
    (hc : c ≠ '\n' ∧ c ≠ '\r') : Extends page (page.char c) [c] := by
  unfold char
  rw [if_neg hc.1, flush_of_settled h, if_neg hc.2]
  exact ⟨String.toList_push c, h, rfl, rfl⟩

theorem foldl_char_extends {cs : List Char} (hcs : OneLine cs) {page : Page}
    (h : page.pending = false) : Extends page (cs.foldl char page) cs := by
  induction cs generalizing page with
  | nil => exact Extends.refl h
  | cons c rest ih =>
    obtain ⟨hc, hrest⟩ := List.forall_mem_cons.mp hcs
    have first := char_extends h hc
    exact first.trans (ih hrest first.settled)

theorem text_extends {page : Page} (h : page.pending = false) {s : String}
    (hs : OneLine s.toList) : Extends page (page.text s) s.toList :=
  foldl_char_extends hs h

def extend (page : Page) (cs : List Char) : Page :=
  { page with
    buffer := page.buffer ++ String.ofList cs
    column := page.column + Text.width cs }

@[simp] theorem extend_nil (page : Page) : page.extend [] = page := by
  simp [extend]

theorem extend_extend (page : Page) (as bs : List Char) :
    (page.extend as).extend bs = page.extend (as ++ bs) := by
  simp [extend, String.append_assoc, Nat.add_assoc]

theorem token_eq_extend {page : Page} (hp : page.pending = false) {t : String}
    (ht : Text.Plain t) : page.token t = page.extend t.toList := by
  unfold token
  split
  · rename_i he
    rw [he]
    exact (extend_nil page).symm
  · rw [flush_of_settled hp, extend, show Text.width t.toList = t.length from ht]
    simp

theorem char_eq_extend {page : Page} (hp : page.pending = false) {c : Char}
    (hc : c ≠ '\n' ∧ c ≠ '\r') : page.char c = page.extend [c] := by
  unfold char
  rw [if_neg hc.1, flush_of_settled hp, if_neg hc.2]
  simp [extend]

theorem text_eq_extend {page : Page} (hp : page.pending = false) {s : String}
    (hs : OneLine s.toList) : page.text s = page.extend s.toList := by
  unfold text
  generalize s.toList = cs at hs
  induction cs generalizing page with
  | nil => exact (extend_nil page).symm
  | cons c rest ih =>
    obtain ⟨hc, hrest⟩ := List.forall_mem_cons.mp hs
    have hsettled : (page.extend [c]).pending = false := hp
    rw [List.foldl_cons, char_eq_extend hp hc, ih hsettled hrest, extend_extend]
    rfl

def indentation (unit : String) (n : Nat) : List Char := (List.replicate n unit.toList).flatten

theorem indentBy_extends {page : Page} (h : page.pending = false) (n : Nat) :
    Extends page (page.indentBy n) (indentation page.indentUnit n) := by
  induction n generalizing page with
  | zero => exact Extends.refl h
  | succ n ih =>
    have first : Extends page { page with
        buffer := page.buffer ++ page.indentUnit
        column := page.column + indentWidth page.indentUnit.toList } page.indentUnit.toList :=
      ⟨String.toList_append, h, rfl, rfl⟩
    exact first.trans (ih first.settled)

theorem pending_flush (page : Page) : page.flush.pending = false := by
  unfold flush
  split
  · split
    · exact (indentBy_extends rfl _).settled
    · exact (indentBy_extends rfl _).settled
  · rename_i h
    simpa using h

theorem char_flush (page : Page) {c : Char} (hc : c ≠ '\n') : page.flush.char c = page.char c := by
  unfold char
  rw [if_neg hc, if_neg hc, flush_of_settled (pending_flush page)]

theorem text_flush (page : Page) {s : String} (hs : IsWord s) :
    page.flush.text s = page.text s := by
  obtain ⟨hne, hline⟩ := hs
  unfold text
  cases hcs : s.toList with
  | nil => exact absurd (String.toList_eq_nil_iff.mp hcs) hne
  | cons c cs =>
    have hc := (hline c (hcs ▸ List.mem_cons_self)).1
    rw [List.foldl_cons, List.foldl_cons, char_flush page hc]

theorem token_flush (page : Page) {t : String} (ht : t ≠ "") :
    page.flush.token t = page.token t := by
  unfold token
  rw [if_neg ht, if_neg ht, flush_of_settled (pending_flush page)]

theorem token_token (page : Page) (s t : String) :
    (page.token s).token t = page.token (s ++ t) := by
  by_cases hs : s = ""
  · simp [hs, token]
  by_cases ht : t = ""
  · simp [ht, token]
  have hst : s ++ t ≠ "" := by
    intro h
    exact hs (String.append_eq_empty_iff.mp h).1
  unfold token
  rw [if_neg hs, if_neg ht, if_neg hst, flush_of_settled]
  · simp [String.append_assoc, Nat.add_assoc]
  · exact pending_flush page

/-- A line break on a page that has text, and punctuation on the new line. -/
theorem newLine_token_extends {page : Page} (h : page.pending = false) (hb : page.buffer ≠ "")
    {t : String} (ht : t ≠ "") :
    Extends page (page.newLine.token t)
      ('\n' :: indentation page.indentUnit page.depth ++ t.toList) := by
  have hn : page.newLine = { page with pending := true } := by
    unfold newLine
    rw [h]
    rfl
  have hf : page.newLine.flush = indentBy { page with
      pending := false
      buffer := page.buffer.push '\n'
      line := page.line + 1
      column := 0 } page.depth := by
    rw [hn]
    simp [flush, hb]
  have first : Extends page { page with
      pending := false
      buffer := page.buffer.push '\n'
      line := page.line + 1
      column := 0 } ['\n'] := ⟨String.toList_push '\n', rfl, rfl, rfl⟩
  have second := first.trans (indentBy_extends first.settled page.depth)
  rw [← hf] at second
  have third : Extends page.newLine.flush (page.newLine.token t) t.toList := by
    unfold token
    rw [if_neg ht]
    exact ⟨String.toList_append, second.settled, rfl, rfl⟩
  exact second.trans third

end Page

end Legible
