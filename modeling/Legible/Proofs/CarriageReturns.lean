import Legible.Proofs.PageBookkeeping

/-!
# Carriage returns

Carriage returns are left out of the text, but the first one on a line opens it. That shows only
where nothing else opens the line: where carriage returns stand alone on a line that was noted. Even
there the page is the same in the end if the line that they open could not be told from the empty
line that the next line break writes.
-/

namespace Legible.Page

def withoutReturns (s : String) : String := String.ofList (s.toList.filter (· ≠ '\r'))

/-- Some character is written, other than a line break. -/
def HasInk (cs : List Char) : Prop := ∃ c ∈ cs, c ≠ '\n' ∧ c ≠ '\r'

/-- In `cs`, written from `page` on, a noted line between `before` and `after` consists of carriage
returns. -/
structure LoneReturns (page : Page) (cs before after : List Char) : Prop where
  split : ∃ n, cs = before ++ List.replicate (n + 1) '\r' ++ after
  noted : (before.foldl char page).pending = true
  ended : ∀ c ∈ after.head?, c = '\n'

/-- On a page with a noted line break it does not show, once `after` is written, that the line was
opened for nothing: another line break follows, there is text above, the line is not indented, and
the column is zero or is counted anew on a later line. -/
structure Hidden (page : Page) (after : List Char) : Prop where
  ended : after ≠ []
  written : page.buffer ≠ ""
  flat : indentation page.indentUnit page.depth = []
  column : page.column = 0 ∨ HasInk after

def ReturnsHidden (page : Page) (cs : List Char) : Prop :=
  ∀ before after, LoneReturns page cs before after → Hidden (before.foldl char page) after

/-- The carriage returns at the head of `cs` are hidden if nothing else is on their line. -/
def LineHidden (page : Page) (cs : List Char) : Prop :=
  ∀ n after, cs = List.replicate n '\r' ++ after → (∀ c ∈ after.head?, c = '\n') → Hidden page after

/-! ## Along the characters -/

@[elab_as_elim]
theorem charsInduction {motive : List Char → Prop} (nil : motive [])
    (carriageReturn : ∀ cs, motive cs → motive ('\r' :: cs))
    (lineBreak : ∀ cs, motive cs → motive ('\n' :: cs))
    (ink : ∀ c cs, c ≠ '\n' ∧ c ≠ '\r' → motive cs → motive (c :: cs)) (cs : List Char) :
    motive cs := by
  induction cs with
  | nil => exact nil
  | cons c cs ih =>
    rcases eq_or_ne c '\r' with rfl | hreturn
    · exact carriageReturn cs ih
    rcases eq_or_ne c '\n' with rfl | hbreak
    · exact lineBreak cs ih
    · exact ink c cs ⟨hbreak, hreturn⟩ ih

theorem hasInk_break (cs : List Char) : HasInk ('\n' :: cs) ↔ HasInk cs := by
  simp [HasInk]

theorem hasInk_return (cs : List Char) : HasInk ('\r' :: cs) ↔ HasInk cs := by
  simp [HasInk]

theorem hasInk_ink {c : Char} (hc : c ≠ '\n' ∧ c ≠ '\r') (cs : List Char) : HasInk (c :: cs) :=
  ⟨c, List.mem_cons_self, hc⟩

theorem returnsHidden_nil (page : Page) : ReturnsHidden page [] := by
  rintro before after ⟨⟨n, hsplit⟩, -, -⟩
  simp at hsplit

theorem returnsHidden_cons (page : Page) (c : Char) (cs : List Char) :
    ReturnsHidden page (c :: cs) ↔
      (page.pending = true → c = '\r' → LineHidden page cs) ∧ ReturnsHidden (page.char c) cs := by
  constructor
  · intro h
    constructor
    · rintro hp rfl n after rfl hended
      exact h [] after ⟨⟨n, rfl⟩, hp, hended⟩
    · rintro before after ⟨⟨n, rfl⟩, hnoted, hended⟩
      exact h (c :: before) after ⟨⟨n, rfl⟩, hnoted, hended⟩
  · rintro ⟨hhead, htail⟩ before after ⟨⟨n, hsplit⟩, hnoted, hended⟩
    cases before with
    | nil =>
      obtain ⟨rfl, rfl⟩ := List.cons.inj hsplit
      exact hhead hnoted rfl n after rfl hended
    | cons d before =>
      obtain ⟨rfl, rfl⟩ := List.cons.inj hsplit
      exact htail before after ⟨⟨n, rfl⟩, hnoted, hended⟩

theorem returnsHidden_return {page : Page} (hp : page.pending = true) (cs : List Char) :
    ReturnsHidden page ('\r' :: cs) ↔ LineHidden page cs ∧ ReturnsHidden page.flush cs := by
  rw [returnsHidden_cons]
  exact and_congr_left fun _ => ⟨fun h => h hp rfl, fun h _ _ => h⟩

theorem returnsHidden_return_of_settled {page : Page} (hp : page.pending = false) (cs : List Char) :
    ReturnsHidden page ('\r' :: cs) ↔ ReturnsHidden page cs := by
  have hchar : page.char '\r' = page := flush_of_settled hp
  rw [returnsHidden_cons, hchar, hp]
  exact and_iff_right fun h => absurd h Bool.false_ne_true

theorem returnsHidden_of_ne (page : Page) {c : Char} (hc : c ≠ '\r') (cs : List Char) :
    ReturnsHidden page (c :: cs) ↔ ReturnsHidden (page.char c) cs := by
  rw [returnsHidden_cons]
  exact and_iff_right fun _ h => absurd h hc

theorem not_lineHidden_nil (page : Page) : ¬LineHidden page [] :=
  fun h => (h 0 [] rfl (by simp)).ended rfl

theorem lineHidden_return (page : Page) (cs : List Char) :
    LineHidden page ('\r' :: cs) ↔ LineHidden page cs := by
  constructor
  · rintro h n after rfl hended
    exact h (n + 1) after rfl hended
  · intro h n after hsplit hended
    cases n with
    | zero =>
      subst hsplit
      exact absurd (hended '\r' rfl) (by decide)
    | succ n => exact h n after (List.cons.inj hsplit).2 hended

theorem lineHidden_break (page : Page) (cs : List Char) :
    LineHidden page ('\n' :: cs) ↔ Hidden page ('\n' :: cs) := by
  constructor
  · intro h
    exact h 0 _ rfl fun c hc => (Option.some.inj hc).symm
  · intro h n after hsplit _
    cases n with
    | zero =>
      obtain rfl : '\n' :: cs = after := hsplit
      exact h
    | succ n => exact absurd (List.cons.inj hsplit).1 (by decide)

theorem lineHidden_ink (page : Page) {c : Char} (hc : c ≠ '\n' ∧ c ≠ '\r') (cs : List Char) :
    LineHidden page (c :: cs) := by
  intro n after hsplit hended
  cases n with
  | zero =>
    subst hsplit
    exact absurd (hended c rfl) hc.1
  | succ n => exact absurd (List.cons.inj hsplit).1 hc.2

theorem hidden_break_iff (page : Page) (cs : List Char) :
    Hidden page ('\n' :: cs) ↔ (page.buffer ≠ "" ∧ indentation page.indentUnit page.depth = []) ∧
      (page.column = 0 ∨ HasInk cs) := by
  constructor
  · rintro ⟨-, hwritten, hflat, hcolumn⟩
    exact ⟨⟨hwritten, hflat⟩, by rwa [hasInk_break] at hcolumn⟩
  · rintro ⟨⟨hwritten, hflat⟩, hcolumn⟩
    exact ⟨List.cons_ne_nil _ _, hwritten, hflat, by rwa [hasInk_break]⟩

/-! ## The column of a line that was opened for nothing -/

def restart (page : Page) : Page := { page with column := 0 }

theorem flush_restart {page : Page} (h : page.pending = true) :
    page.restart.flush = page.flush := by
  simp [flush, restart, h]

theorem newLine_restart (page : Page) : page.restart.newLine = page.newLine.restart := by
  unfold newLine restart
  split <;> rfl

theorem char_restart {page : Page} (h : page.pending = true) {c : Char} (hc : c ≠ '\n') :
    page.restart.char c = page.char c := by
  rw [← char_flush page.restart hc, flush_restart h, char_flush page hc]

theorem lineHidden_restart (page : Page) (cs : List Char) :
    LineHidden page cs ↔ (page.column = 0 ∨ HasInk cs) ∧ LineHidden page.restart cs := by
  induction cs using charsInduction with
  | nil => simp [not_lineHidden_nil]
  | carriageReturn cs ih => rw [lineHidden_return, lineHidden_return, hasInk_return, ih]
  | lineBreak cs _ =>
    rw [lineHidden_break, lineHidden_break, hidden_break_iff, hidden_break_iff, hasInk_break]
    constructor
    · rintro ⟨hlevel, hcolumn⟩
      exact ⟨hcolumn, hlevel, .inl rfl⟩
    · rintro ⟨hcolumn, hlevel, -⟩
      exact ⟨hlevel, hcolumn⟩
  | ink c cs hc _ =>
    exact iff_of_true (lineHidden_ink page hc cs)
      ⟨.inr (hasInk_ink hc cs), lineHidden_ink page.restart hc cs⟩

theorem indentBy_of_nil {page : Page} {n : Nat} (h : indentation page.indentUnit n = []) :
    page.indentBy n = page := by
  induction n with
  | zero => rfl
  | succ n ih =>
    rw [indentation, List.replicate_succ, List.flatten_cons, List.append_eq_nil_iff] at h
    obtain ⟨hunit, hrest⟩ := h
    have hbuffer : page.buffer ++ page.indentUnit = page.buffer := by
      rw [String.toList_eq_nil_iff.mp hunit, String.append_empty]
    rw [indentBy, hbuffer, hunit]
    exact ih hrest

/-- Where nothing is indented, opening a line and ending it is ending it unopened, but for the
column. -/
theorem newLine_flush {page : Page} (h : page.pending = true) (hwritten : page.buffer ≠ "")
    (hflat : indentation page.indentUnit page.depth = []) :
    page.flush.newLine = page.newLine.restart := by
  unfold flush
  rw [if_pos h, if_neg hwritten, indentBy_of_nil]
  · simp [newLine, restart, h]
  · exact hflat

/-! ## Two runs -/

/-- Characters written on `a`, and the same without the carriage returns on `b`, leave one page. -/
def Agree (a b : Page) (cs : List Char) : Prop :=
  cs.foldl char a = (cs.filter (· ≠ '\r')).foldl char b

theorem agree_return (a b : Page) (cs : List Char) :
    Agree a b ('\r' :: cs) ↔ Agree a.flush b cs := Iff.rfl

theorem agree_cons (a b : Page) {c : Char} (hc : c ≠ '\r') (cs : List Char) :
    Agree a b (c :: cs) ↔ Agree (a.char c) (b.char c) cs := by
  rw [Agree, List.filter_cons_of_pos (by simpa using hc)]
  rfl

/-- Pages never become the same if they are in a relation that carriage returns on the first one,
and other characters on both, keep up. -/
theorem not_agree_of_apart {R : Page → Page → Prop} (hne : ∀ a b, R a b → a ≠ b)
    (hreturn : ∀ a b, R a b → R a.flush b)
    (hchar : ∀ a b c, c ≠ '\r' → R a b → R (a.char c) (b.char c)) {a b : Page} (h : R a b)
    (cs : List Char) : ¬Agree a b cs := by
  induction cs generalizing a b with
  | nil => exact hne a b h
  | cons c cs ih =>
    by_cases hc : c = '\r'
    · subst hc
      rw [agree_return]
      exact ih (hreturn a b h)
    · rw [agree_cons a b hc]
      exact ih (hchar a b c hc h)

theorem written_flush {page : Page} (h : page.buffer ≠ "") : page.flush.buffer ≠ "" := by
  by_cases hp : page.pending = true
  · rw [ne_eq, ← String.toList_eq_nil_iff, toList_flush hp, if_neg h]
    simp
  · rwa [flush_of_settled (by simpa using hp)]

theorem written_newLine {page : Page} (h : page.buffer ≠ "") : page.newLine.buffer ≠ "" := by
  unfold newLine
  split
  · simp [← String.toList_eq_nil_iff]
  · exact h

theorem written_char {page : Page} (h : page.buffer ≠ "") (c : Char) :
    (page.char c).buffer ≠ "" := by
  unfold char
  split
  · exact written_newLine h
  · dsimp only
    split
    · exact written_flush h
    · simp [← String.toList_eq_nil_iff]

theorem pending_char (page : Page) (c : Char) : (page.char c).pending = decide (c = '\n') := by
  unfold char
  split
  · rename_i hc
    rw [decide_eq_true hc, newLine]
    split
    · assumption
    · rfl
  · rename_i hc
    rw [decide_eq_false hc]
    dsimp only
    split <;> exact pending_flush page

def nextLine (page : Page) : Nat := page.line + page.pending.toNat

theorem nextLine_newLine (page : Page) : page.newLine.nextLine = page.nextLine + 1 := by
  unfold newLine nextLine
  split
  · simp only
    omega
  · rename_i hp
    simp [hp]

theorem nextLine_flush_le (page : Page) : page.flush.nextLine ≤ page.nextLine := by
  by_cases hp : page.pending = true
  · rw [nextLine, nextLine, pending_flush, line_flush hp, hp]
    split <;> simp
  · rw [flush_of_settled (by simpa using hp)]

theorem nextLine_flush {page : Page} (h : page.buffer ≠ "") :
    page.flush.nextLine = page.nextLine := by
  by_cases hp : page.pending = true
  · rw [nextLine, nextLine, pending_flush, line_flush hp, hp, if_neg h]
    rfl
  · rw [flush_of_settled (by simpa using hp)]

theorem nextLine_char (page : Page) {c : Char} (hc : c ≠ '\n') :
    (page.char c).nextLine = page.flush.nextLine := by
  unfold char
  rw [if_neg hc]
  dsimp only
  split <;> rfl

/-- The page falls behind for good: lines that are written on an empty page cost it one. -/
structure Behind (a b : Page) : Prop where
  written : b.buffer ≠ ""
  line : a.nextLine < b.nextLine

theorem not_agree_of_behind {a b : Page} (h : Behind a b) (cs : List Char) : ¬Agree a b cs := by
  refine not_agree_of_apart (R := Behind) ?_ ?_ ?_ h cs
  · rintro a b h rfl
    exact Nat.lt_irrefl _ h.line
  · intro a b h
    exact ⟨h.written, (nextLine_flush_le a).trans_lt h.line⟩
  · intro a b c _ h
    refine ⟨written_char h.written c, ?_⟩
    by_cases hbreak : c = '\n'
    · subst hbreak
      change a.newLine.nextLine < b.newLine.nextLine
      rw [nextLine_newLine, nextLine_newLine]
      exact Nat.succ_lt_succ h.line
    · rw [nextLine_char a hbreak, nextLine_char b hbreak, nextLine_flush h.written]
      exact (nextLine_flush_le a).trans_lt h.line

def indentLength (page : Page) : Nat := (indentation page.indentUnit page.depth).length

/-- The length of the text once the noted line break is written. -/
def reach (page : Page) : Nat :=
  page.buffer.toList.length + if page.pending then 1 + page.indentLength else 0

theorem Keeps.indentLength {page later : Page} (h : Keeps page later) :
    later.indentLength = page.indentLength := by
  rw [Page.indentLength, h.depth, h.indentUnit, Page.indentLength]

theorem reach_flush {page : Page} (h : page.buffer ≠ "") : page.flush.reach = page.reach := by
  by_cases hp : page.pending = true
  · rw [reach, reach, pending_flush, hp, toList_flush hp, if_neg h]
    simp [indentLength, Nat.add_comm]
  · rw [flush_of_settled (by simpa using hp)]

theorem reach_newLine (page : Page) :
    page.newLine.reach = page.reach + 1 + if page.pending then 0 else page.indentLength := by
  unfold newLine reach
  split <;> simp [indentLength] <;> omega

theorem reach_char (page : Page) {c : Char} (hc : c ≠ '\n' ∧ c ≠ '\r') :
    (page.char c).reach = page.flush.reach + 1 := by
  have hsettled := pending_flush page
  rw [← char_flush page hc.1, char_eq_extend hsettled hc]
  simp [reach, extend, hsettled]

/-- The page stays ahead for good: it has indentation that the other one lacks. -/
structure Ahead (a b : Page) : Prop where
  written : a.buffer ≠ "" ∧ b.buffer ≠ ""
  noted : a.pending = true → b.pending = true
  indentLength : a.indentLength = b.indentLength
  reach : b.reach < a.reach

theorem not_agree_of_ahead {a b : Page} (h : Ahead a b) (cs : List Char) : ¬Agree a b cs := by
  refine not_agree_of_apart (R := Ahead) ?_ ?_ ?_ h cs
  · rintro a b h rfl
    exact Nat.lt_irrefl _ h.reach
  · intro a b h
    refine ⟨⟨written_flush h.written.1, h.written.2⟩, ?_, ?_, ?_⟩
    · simp [pending_flush]
    · rw [(keeps_flush a).indentLength, h.indentLength]
    · rw [reach_flush h.written.1]
      exact h.reach
  · intro a b c hreturn h
    refine ⟨⟨written_char h.written.1 c, written_char h.written.2 c⟩, ?_, ?_, ?_⟩
    · rw [pending_char, pending_char]
      exact id
    · rw [(keeps_char a c).indentLength, (keeps_char b c).indentLength, h.indentLength]
    · by_cases hbreak : c = '\n'
      · subst hbreak
        change b.newLine.reach < a.newLine.reach
        have hreach := h.reach
        have hlength := h.indentLength
        rw [reach_newLine, reach_newLine]
        cases ha : a.pending with
        | true =>
          rw [if_pos (h.noted ha), if_pos rfl]
          omega
        | false =>
          rw [if_neg Bool.false_ne_true]
          split <;> omega
      · rw [reach_char a ⟨hbreak, hreturn⟩, reach_char b ⟨hbreak, hreturn⟩, reach_flush h.written.1,
          reach_flush h.written.2]
        exact Nat.succ_lt_succ h.reach

/-- A line that was opened for nothing and shows is not made up for. -/
theorem not_agree_of_shows {page : Page} (h : page.pending = true)
    (hshows : ¬(page.buffer ≠ "" ∧ indentation page.indentUnit page.depth = [])) (cs : List Char) :
    ¬Agree page.flush.newLine page.newLine cs := by
  by_cases hempty : page.buffer = ""
  · apply not_agree_of_behind
    constructor
    · simp [newLine, h, ← String.toList_eq_nil_iff]
    · rw [nextLine_newLine, nextLine_newLine, nextLine, nextLine, pending_flush, line_flush h,
        if_pos hempty, h]
      simp
  · have hflat : indentation page.indentUnit page.depth ≠ [] := fun hflat => hshows ⟨hempty, hflat⟩
    have hlength : 0 < page.indentLength := List.length_pos_iff.mpr hflat
    have hkept : page.flush.indentLength = page.indentLength := (keeps_flush page).indentLength
    apply not_agree_of_ahead
    refine ⟨⟨written_newLine (written_flush hempty), written_newLine hempty⟩, ?_, ?_, ?_⟩
    · intro _
      simp [newLine, h]
    · rw [(keeps_newLine _).indentLength, (keeps_newLine _).indentLength, hkept]
    · rw [reach_newLine, reach_newLine, reach_flush hempty, pending_flush, hkept, h]
      simp only [↓reduceIte, Bool.false_eq_true]
      omega

/-! ## When carriage returns do not show -/

/-- What becomes of a page with and without the carriage returns: while it is the same, once they
have opened a noted line, and once only the column tells that they did. -/
structure Decided (page : Page) (cs : List Char) : Prop where
  same : Agree page page cs ↔ ReturnsHidden page cs
  opened : page.pending = true →
    (Agree page.flush page cs ↔ LineHidden page cs ∧ ReturnsHidden page.flush cs)
  restarted : page.pending = true → (Agree page.restart page cs ↔
    (page.column = 0 ∨ HasInk cs) ∧ ReturnsHidden page.restart cs)

theorem decided_nil (page : Page) : Decided page [] where
  same := iff_of_true rfl (returnsHidden_nil page)
  opened hp := by
    refine iff_of_false (fun h => ?_) fun h => not_lineHidden_nil page h.1
    have hpending : page.flush.pending = page.pending := congrArg Page.pending h
    rw [pending_flush, hp] at hpending
    cases hpending
  restarted hp := by
    have hcolumn : Agree page.restart page [] ↔ page.column = 0 := by
      constructor
      · intro h
        exact (congrArg Page.column h).symm
      · intro h
        change { page with column := 0 } = page
        rw [← h]
    rw [hcolumn, and_iff_left (returnsHidden_nil _)]
    exact (or_iff_left (by simp [HasInk])).symm

theorem decided_return {cs : List Char} (ih : ∀ page, Decided page cs) (page : Page) :
    Decided page ('\r' :: cs) where
  same := by
    rw [agree_return]
    by_cases hp : page.pending = true
    · rw [returnsHidden_return hp]
      exact (ih page).opened hp
    · have hp : page.pending = false := by simpa using hp
      rw [returnsHidden_return_of_settled hp, flush_of_settled hp]
      exact (ih page).same
  opened hp := by
    have hsettled := pending_flush page
    rw [agree_return, flush_of_settled hsettled, lineHidden_return,
      returnsHidden_return_of_settled hsettled]
    exact (ih page).opened hp
  restarted hp := by
    have hrestart : page.restart.pending = true := hp
    rw [agree_return, returnsHidden_return hrestart, flush_restart hp, hasInk_return, ← and_assoc,
      ← lineHidden_restart]
    exact (ih page).opened hp

theorem decided_break {cs : List Char} (ih : ∀ page, Decided page cs) (page : Page) :
    Decided page ('\n' :: cs) where
  same := by
    rw [agree_cons _ _ (by decide), returnsHidden_of_ne _ (by decide)]
    exact (ih _).same
  opened hp := by
    rw [agree_cons _ _ (by decide), returnsHidden_of_ne _ (by decide), lineHidden_break,
      hidden_break_iff]
    change Agree page.flush.newLine page.newLine cs ↔ _ ∧ ReturnsHidden page.flush.newLine cs
    by_cases hlevel : page.buffer ≠ "" ∧ indentation page.indentUnit page.depth = []
    · have hnoted : page.newLine.pending = true := by simp [newLine, hp]
      have hcolumn : page.newLine.column = page.column := by simp [newLine, hp]
      rw [newLine_flush hp hlevel.1 hlevel.2, (ih page.newLine).restarted hnoted, hcolumn,
        and_iff_right hlevel]
    · exact iff_of_false (not_agree_of_shows hp hlevel cs) fun h => hlevel h.1.1
  restarted hp := by
    have hnoted : page.newLine.pending = true := by simp [newLine, hp]
    have hcolumn : page.newLine.column = page.column := by simp [newLine, hp]
    rw [agree_cons _ _ (by decide), returnsHidden_of_ne _ (by decide), hasInk_break, ← hcolumn]
    change Agree page.restart.newLine page.newLine cs ↔ _ ∧ ReturnsHidden page.restart.newLine cs
    rw [newLine_restart]
    exact (ih page.newLine).restarted hnoted

theorem decided_ink {cs : List Char} (ih : ∀ page, Decided page cs) {c : Char}
    (hc : c ≠ '\n' ∧ c ≠ '\r') (page : Page) : Decided page (c :: cs) where
  same := by
    rw [agree_cons _ _ hc.2, returnsHidden_of_ne _ hc.2]
    exact (ih _).same
  opened hp := by
    rw [agree_cons _ _ hc.2, returnsHidden_of_ne _ hc.2, char_flush page hc.1,
      and_iff_right (lineHidden_ink page hc cs)]
    exact (ih _).same
  restarted hp := by
    rw [agree_cons _ _ hc.2, returnsHidden_of_ne _ hc.2, char_restart hp hc.1,
      and_iff_right (.inr (hasInk_ink hc cs))]
    exact (ih _).same

theorem decided (page : Page) (cs : List Char) : Decided page cs := by
  induction cs using charsInduction generalizing page with
  | nil => exact decided_nil page
  | carriageReturn cs ih => exact decided_return ih page
  | lineBreak cs ih => exact decided_break ih page
  | ink c cs hc ih => exact decided_ink ih hc page

theorem text_withoutReturns_iff (page : Page) (s : String) :
    page.text s = page.text (withoutReturns s) ↔
      ∀ before after, LoneReturns page s.toList before after →
        Hidden (before.foldl char page) after := by
  have h := (decided page s.toList).same
  rw [Agree, ReturnsHidden] at h
  rw [text, text, withoutReturns, String.toList_ofList]
  exact h

/-- A blank line between carriage returns is indented, and without them it is not. -/
theorem blank_line_indented_by_return :
    (({ indentUnit := "  ", depth := 1 } : Page).text "a\r\n\r\nb").finish = "a\n  \n  b" ∧
      (({ indentUnit := "  ", depth := 1 } : Page).text (withoutReturns "a\r\n\r\nb")).finish =
        "a\n\n  b" := by
  decide

end Legible.Page
