import Legible.Proofs.TrailingBreaks
import Mathlib.Data.List.DropRight

/-!
# The numbers that a page keeps

A page counts its lines, its columns and its levels on the way, and never reads its text again to
do so. At every point of a script, inside of blocks as well, these numbers are those of the text
written so far. The column depends on how far the line was indented, which its characters do not
tell: a tab of the indentation is worth four columns and a tab of the text none. The strokes tell it.
-/

namespace Legible.Page

open Step (strokesOfAll)

/-! ## Points of a run -/

/-- A run of `steps` on `page` comes by `later`, inside of `blocks` open blocks and after the
strokes `ss`. -/
inductive Passes : Page → List Step → Nat → List Stroke → Page → Prop where
  | here (page : Page) (steps : List Step) : Passes page steps 0 [] page
  | past {page later : Page} {step : Step} {rest : List Step} {trace : Trace} {blocks : Nat}
      {ss : List Stroke} (hrun : runStep page step = .ok trace) (hgoes : trace.stopped = false)
      (h : Passes trace.page rest blocks ss later) :
      Passes page (step :: rest) blocks (step.strokes page.depth ++ ss) later
  | inside {page later : Page} {body rest : List Step} {blocks : Nat} {ss : List Stroke}
      (h : Passes page.indent body blocks ss later) :
      Passes page (.indented body :: rest) (blocks + 1) ss later

/-- A point of a script is on the page that the strokes before it leave, one level deeper for each
block that is open there. -/
theorem Passes.eq_foldl_strike {page later : Page} {steps : List Step} {blocks : Nat}
    {ss : List Stroke} (h : Passes page steps blocks ss later)
    (hsteps : Accepted (strokesOfAll page.depth steps)) :
    later = (ss.foldl strike page).atDepth (page.depth + blocks) ∧
      ss ⊆ strokesOfAll page.depth steps := by
  induction h with
  | here page steps => exact ⟨rfl, List.nil_subset _⟩
  | @past page later step rest trace blocks ss hrun hgoes _ ih =>
    rw [strokesOfAll] at hsteps ⊢
    obtain ⟨first, hfirst, hpage, hstopped⟩ := leaves_runStep step page hsteps.left
    obtain rfl : trace = first := Except.ok.inj (hrun.symm.trans hfirst)
    have hdepth : trace.page.depth = page.depth := by rw [hpage]; rfl
    rw [← hstopped, hgoes, if_neg Bool.false_ne_true] at hsteps ⊢
    obtain ⟨hlater, hss⟩ := ih (hdepth ▸ hsteps.right)
    rw [hdepth] at hlater hss
    constructor
    · rw [hlater, hpage, foldl_strike_atDepth, List.foldl_append]
    · exact List.append_subset.mpr
        ⟨List.subset_append_left _ _, List.Subset.trans hss (List.subset_append_right _ _)⟩
  | @inside page later body rest blocks ss _ ih =>
    rw [strokesOfAll, Step.strokes] at hsteps ⊢
    obtain ⟨hlater, hss⟩ := ih hsteps.left
    refine ⟨?_, List.Subset.trans hss (List.subset_append_left _ _)⟩
    change later = (ss.foldl strike (page.atDepth (page.depth + 1))).atDepth
      (page.depth + 1 + blocks) at hlater
    rw [hlater, foldl_strike_atDepth, Nat.add_assoc, Nat.add_comm 1]

/-- What a run shows are points that it comes by. -/
structure Recorded (page : Page) (steps : List Step) (trace : Trace) : Prop where
  finish : ∃ ss, Passes page steps 0 ss trace.page
  positions : ∀ p ∈ trace.positions, ∃ blocks ss later,
    Passes page steps blocks ss later ∧ later.position = p

theorem runScript_cons_cases {page : Page} {step : Step} {rest : List Step} {trace : Trace}
    (h : runScript page (step :: rest) = .ok trace) :
    ∃ first, runStep page step = .ok first ∧ (first.stopped = true ∧ trace = first ∨
      first.stopped = false ∧ ∃ more, runScript first.page rest = .ok more ∧
        trace = ⟨more.page, first.positions ++ more.positions, more.stopped⟩) := by
  rw [runScript] at h
  cases hrun : runStep page step with
  | error fault => rw [hrun] at h; cases h
  | ok first =>
    rw [hrun] at h
    change (if first.stopped = true then Except.ok first else _) = _ at h
    refine ⟨first, rfl, ?_⟩
    split at h
    · rename_i hstopped
      exact .inl ⟨hstopped, (Except.ok.inj h).symm⟩
    · rename_i hgoes
      cases hmore : runScript first.page rest with
      | error fault => rw [hmore] at h; cases h
      | ok more =>
        rw [hmore] at h
        exact .inr ⟨by simpa using hgoes, more, rfl, (Except.ok.inj h).symm⟩

/-- Running a list of steps, from what is known of each. -/
theorem recorded_runScript {steps : List Step}
    (hsteps : ∀ step ∈ steps, ∀ (page : Page) (trace : Trace), runStep page step = .ok trace →
      ∀ rest, Recorded page (step :: rest) trace)
    (page : Page) {trace : Trace} (h : runScript page steps = .ok trace) :
    Recorded page steps trace := by
  induction steps generalizing page trace with
  | nil =>
    cases h
    exact ⟨⟨_, .here _ _⟩, List.forall_mem_nil _⟩
  | cons step rest ih =>
    obtain ⟨hstep, hrest⟩ := List.forall_mem_cons.mp hsteps
    obtain ⟨first, hrun, ⟨-, rfl⟩ | ⟨hgoes, more, hmore, rfl⟩⟩ := runScript_cons_cases h
    · exact hstep page _ hrun rest
    · have hfirst := hstep page first hrun rest
      have hlater := ih hrest first.page hmore
      constructor
      · obtain ⟨ss, hend⟩ := hlater.finish
        exact ⟨_, .past hrun hgoes hend⟩
      · intro p hp
        rcases List.mem_append.mp hp with hp | hp
        · exact hfirst.positions p hp
        · obtain ⟨blocks, ss, later, hpoint, hposition⟩ := hlater.positions p hp
          exact ⟨blocks, _, later, .past hrun hgoes hpoint, hposition⟩

theorem recorded_completed {page : Page} {step : Step} {trace : Trace} (inner : List Position)
    (hrun : runStep page step = .ok trace) (htrace : trace = .completed trace.page inner)
    (rest : List Step) (hinner : ∀ p ∈ inner, ∃ blocks ss later,
      Passes page (step :: rest) blocks ss later ∧ later.position = p) :
    Recorded page (step :: rest) trace := by
  have hend : Passes page (step :: rest) 0 (step.strokes page.depth ++ []) trace.page :=
    .past hrun (by rw [htrace]; rfl) (.here _ _)
  refine ⟨⟨_, hend⟩, fun p hp => ?_⟩
  rw [htrace] at hp
  rcases List.mem_append.mp hp with hp | hp
  · exact hinner p hp
  · exact ⟨0, _, _, hend, (List.mem_singleton.mp hp).symm⟩

theorem recorded_runStep (step : Step) (page : Page) (trace : Trace)
    (h : runStep page step = .ok trace) (rest : List Step) :
    Recorded page (step :: rest) trace := by
  induction step using Step.induction generalizing page trace rest with
  | token t =>
    refine recorded_completed [] h ?_ rest (List.forall_mem_nil _)
    rw [runStep] at h
    cases ht : checkToken t with
    | error fault => rw [ht] at h; cases h
    | ok _ => rw [ht] at h; cases h; rfl
  | text s => cases h; exact recorded_completed [] rfl rfl rest (List.forall_mem_nil _)
  | writeLine s => cases h; exact recorded_completed [] rfl rfl rest (List.forall_mem_nil _)
  | newLine => cases h; exact recorded_completed [] rfl rfl rest (List.forall_mem_nil _)
  | indented steps ih =>
    have hrun := h
    rw [runStep] at h
    cases hbody : runScript page.indent steps with
    | error fault => rw [hbody] at h; cases h
    | ok body =>
      rw [hbody] at h
      cases h
      refine recorded_completed body.positions hrun rfl rest fun p hp => ?_
      obtain ⟨blocks, ss, later, hpoint, hposition⟩ :=
        (recorded_runScript ih page.indent hbody).positions p hp
      exact ⟨blocks + 1, ss, later, .inside hpoint, hposition⟩
  | fail => cases h; exact ⟨⟨_, .here _ _⟩, List.forall_mem_nil _⟩

/-! ## The present line -/

def lastLine (cs : List Char) : List Char := cs.rtakeWhile (· ≠ '\n')

theorem lastLine_append {as bs : List Char} (h : '\n' ∉ bs) :
    lastLine (as ++ bs) = lastLine as ++ bs := by
  induction bs using List.reverseRecOn with
  | nil => simp
  | append_singleton bs c ih =>
    rw [List.mem_append, List.mem_singleton, not_or] at h
    have hc : decide (c ≠ '\n') = true := decide_eq_true (Ne.symm h.2)
    rw [← List.append_assoc, lastLine, List.rtakeWhile_concat, if_pos hc, ← lastLine, ih h.1,
      List.append_assoc]

theorem lastLine_concat_break (cs : List Char) : lastLine (cs ++ ['\n']) = [] := by
  simp [lastLine]

namespace Stroke

def depth : Stroke → Nat
  | .token depth _ => depth
  | .char depth _ => depth

def isBreak : Stroke → Bool
  | .token _ _ => false
  | .char _ c => c == '\n'

def opens : Stroke → Bool
  | .token _ t => t != ""
  | .char _ c => c != '\n'

/-- Punctuation of printable characters, or any character of running text. -/
def IsPrinted : Stroke → Prop
  | .token _ t => IsPrintable t
  | .char _ _ => True

instance : DecidablePred IsPrinted
  | .token _ t => inferInstanceAs (Decidable (IsPrintable t))
  | .char _ _ => inferInstanceAs (Decidable True)

theorem IsPrinted.isAccepted {s : Stroke} (h : s.IsPrinted) : s.IsAccepted := by
  cases s with
  | token depth t => exact IsPrintable.isPunctuation h
  | char depth c => trivial

end Stroke

/-- The stroke that opened the present line, if a line break comes before it. -/
def opener? (ss : List Stroke) : Option Stroke :=
  if ss.any Stroke.isBreak then (ss.rtakeWhile (!·.isBreak)).find? Stroke.opens else none

def level (ss : List Stroke) : Nat := ((opener? ss).map Stroke.depth).getD 0

/-- A line break is the last that was written, empty punctuation apart. -/
def Noted (ss : List Stroke) : Prop := ss.any Stroke.isBreak = true ∧ opener? ss = none

theorem noted_concat_break (ss : List Stroke) {s : Stroke} (hs : s.isBreak = true) :
    Noted (ss ++ [s]) := by
  simp [Noted, opener?, hs]

theorem opener?_concat (ss : List Stroke) {s : Stroke} (hs : s.isBreak = false) :
    opener? (ss ++ [s]) =
      (opener? ss).or (if ss.any Stroke.isBreak && s.opens then some s else none) := by
  by_cases hss : ss.any Stroke.isBreak = true
  · have hany : (ss ++ [s]).any Stroke.isBreak = true := by simp [hss]
    rw [opener?, if_pos hany, List.rtakeWhile_concat, if_pos (by simp [hs]), List.find?_append,
      List.find?_singleton, opener?, if_pos hss, hss, Bool.true_and]
  · simp [opener?, hs, hss]

/-! ## Opening a line -/

theorem indentWidth_append (as bs : List Char) :
    indentWidth (as ++ bs) = indentWidth as + indentWidth bs := by
  induction as with
  | nil => simp [indentWidth]
  | cons c as ih =>
    rw [List.cons_append, indentWidth, indentWidth, ih]
    omega

theorem indentWidth_eq {cs : List Char} (h : ∀ c ∈ cs, c = ' ' ∨ c = '\t') :
    indentWidth cs = 4 * cs.count '\t' + cs.count ' ' := by
  induction cs with
  | nil => rfl
  | cons c cs ih =>
    obtain ⟨hc, hcs⟩ := List.forall_mem_cons.mp h
    rw [indentWidth, ih hcs]
    rcases hc with rfl | rfl
    · rw [List.count_cons_self, List.count_cons_of_ne (by decide), if_neg (by decide)]
      omega
    · rw [List.count_cons_self, List.count_cons_of_ne (by decide), if_pos rfl]
      omega

theorem column_indentBy (page : Page) (n : Nat) :
    (page.indentBy n).column = page.column + indentWidth (indentation page.indentUnit n) := by
  induction n generalizing page with
  | zero => rfl
  | succ n ih =>
    rw [indentBy, ih, indentation, indentation, List.replicate_succ, List.flatten_cons,
      indentWidth_append, Nat.add_assoc]

theorem line_indentBy (page : Page) (n : Nat) : (page.indentBy n).line = page.line := by
  induction n generalizing page with
  | zero => rfl
  | succ n ih => rw [indentBy, ih]

theorem column_flush {page : Page} (h : page.pending = true) :
    page.flush.column = indentWidth (indentation page.indentUnit page.depth) := by
  unfold flush
  rw [if_pos h]
  split <;> rw [column_indentBy, Nat.zero_add]

theorem line_flush {page : Page} (h : page.pending = true) :
    page.flush.line = if page.buffer = "" then page.line else page.line + 1 := by
  unfold flush
  rw [if_pos h]
  split <;> rw [line_indentBy]

/-! ## One more stroke -/

/-- The numbers of a page are those of its text, in which the strokes tell how far the present line
is indented. -/
structure Bookkept (unit : String) (page : Page) (ss : List Stroke) : Prop where
  indentUnit : page.indentUnit = unit
  line : page.line = 1 + page.buffer.toList.count '\n'
  noReturn : '\r' ∉ page.buffer.toList
  pending : page.pending = true ↔ Noted ss
  column : page.pending = false → ∃ rest,
    lastLine page.buffer.toList = indentation unit (level ss) ++ rest ∧
    page.column = 4 * (indentation unit (level ss)).count '\t' +
      (indentation unit (level ss)).count ' ' + Text.width rest

theorem bookkept_empty (unit : String) : Bookkept unit { indentUnit := unit } [] where
  indentUnit := rfl
  line := rfl
  noReturn := List.not_mem_nil
  pending := by simp [Noted]
  column _ := ⟨[], rfl, rfl⟩

namespace Bookkept

variable {unit : String} {page : Page} {ss : List Stroke}

theorem atDepth (h : Bookkept unit page ss) (depth : Nat) : Bookkept unit (page.atDepth depth) ss :=
  ⟨h.indentUnit, h.line, h.noReturn, h.pending, h.column⟩

theorem extend (h : Bookkept unit page ss) (hp : page.pending = false) {cs : List Char}
    (hcs : OneLine cs) : Bookkept unit (page.extend cs) ss := by
  have hbreak : '\n' ∉ cs := fun hmem => (hcs _ hmem).1 rfl
  have hreturn : '\r' ∉ cs := fun hmem => (hcs _ hmem).2 rfl
  have hbuffer : (page.extend cs).buffer.toList = page.buffer.toList ++ cs := by
    simp [Page.extend]
  refine ⟨h.indentUnit, ?_, ?_, h.pending, fun _ => ?_⟩
  · rw [hbuffer, List.count_append, List.count_eq_zero.mpr hbreak]
    exact h.line
  · rw [hbuffer, List.mem_append]
    exact not_or.mpr ⟨h.noReturn, hreturn⟩
  · obtain ⟨rest, hline, hcolumn⟩ := h.column hp
    refine ⟨rest ++ cs, ?_, ?_⟩
    · rw [hbuffer, lastLine_append hbreak, hline, List.append_assoc]
    · rw [Text.width_append, ← Nat.add_assoc, ← hcolumn]
      rfl

theorem newLine (h : Bookkept unit page ss) {s : Stroke} (hs : s.isBreak = true) :
    Bookkept unit page.newLine (ss ++ [s]) := by
  have hnoted := noted_concat_break ss hs
  unfold Page.newLine
  split
  · rename_i hp
    refine ⟨h.indentUnit, ?_, ?_, iff_of_true hp hnoted, ?_⟩
    · simp [h.line, Nat.add_assoc]
    · simpa using h.noReturn
    · intro hsettled
      cases hp.symm.trans hsettled
  · exact ⟨h.indentUnit, h.line, h.noReturn, iff_of_true rfl hnoted,
      fun h => absurd h.symm Bool.false_ne_true⟩

/-- The stroke leaves the page as it is, and the present line opened as it was. -/
theorem same (h : Bookkept unit page ss) {s : Stroke} (hbreak : s.isBreak = false)
    (hopener : opener? (ss ++ [s]) = opener? ss) : Bookkept unit page (ss ++ [s]) := by
  have hlevel : level (ss ++ [s]) = level ss := by rw [level, hopener, level]
  have hany : (ss ++ [s]).any Stroke.isBreak = ss.any Stroke.isBreak := by simp [hbreak]
  refine ⟨h.indentUnit, h.line, h.noReturn, ?_, ?_⟩
  · rw [Noted, hopener, hany]
    exact h.pending
  · rw [hlevel]
    exact h.column

theorem flush_of_noted (h : Bookkept unit page ss) (hp : page.pending = true)
    (hunit : ∀ c ∈ unit.toList, c = ' ' ∨ c = '\t') {s : Stroke} (hbreak : s.isBreak = false)
    (hopens : s.opens = true) (hdepth : s.depth = page.depth) :
    Bookkept unit page.flush (ss ++ [s]) := by
  obtain ⟨hss, hnone⟩ := h.pending.mp hp
  have hopener : opener? (ss ++ [s]) = some s := by
    rw [opener?_concat ss hbreak, hss, hopens, hnone]
    rfl
  have hlevel : level (ss ++ [s]) = page.depth := by rw [level, hopener, ← hdepth]; rfl
  have hblank : ∀ c ∈ indentation unit page.depth, c = ' ' ∨ c = '\t' :=
    fun c hc => hunit c (mem_of_mem_indentation hc)
  have hnl : '\n' ∉ indentation unit page.depth := fun hc => absurd (hblank _ hc) (by decide)
  have hcr : '\r' ∉ indentation unit page.depth := fun hc => absurd (hblank _ hc) (by decide)
  have hbuffer := toList_flush hp
  rw [h.indentUnit] at hbuffer
  refine ⟨(keeps_flush page).indentUnit.trans h.indentUnit, ?_, ?_, ?_, fun _ => ⟨[], ?_, ?_⟩⟩
  · rw [line_flush hp, hbuffer, List.count_append, List.count_eq_zero.mpr hnl, h.line]
    split
    · rename_i hempty
      simp [hempty]
    · simp [Nat.add_assoc]
  · rw [hbuffer, List.mem_append]
    refine not_or.mpr ⟨?_, hcr⟩
    split
    · exact List.not_mem_nil
    · simpa using h.noReturn
  · refine iff_of_false (by simp [pending_flush]) fun hnoted => ?_
    cases hopener.symm.trans hnoted.2
  · rw [hbuffer, lastLine_append hnl, hlevel, List.append_nil]
    split
    · rfl
    · rw [lastLine_concat_break, List.nil_append]
  · rw [column_flush hp, h.indentUnit, hlevel, indentWidth_eq hblank]
    rfl

theorem flush (h : Bookkept unit page ss) (hunit : ∀ c ∈ unit.toList, c = ' ' ∨ c = '\t')
    {s : Stroke} (hbreak : s.isBreak = false) (hopens : s.opens = true)
    (hdepth : s.depth = page.depth) : Bookkept unit page.flush (ss ++ [s]) := by
  by_cases hp : page.pending = true
  · exact h.flush_of_noted hp hunit hbreak hopens hdepth
  · rw [flush_of_settled (by simpa using hp)]
    apply h.same hbreak
    rw [opener?_concat ss hbreak]
    cases hopener : opener? ss with
    | some o => rfl
    | none =>
      -- no line break came before, or the line would not be open yet
      have hss : ss.any Stroke.isBreak = false := by
        simpa using fun hss => hp (h.pending.mpr ⟨hss, hopener⟩)
      rw [hss]
      rfl

theorem token (h : Bookkept unit page ss) (hunit : ∀ c ∈ unit.toList, c = ' ' ∨ c = '\t')
    {t : String} (ht : IsPrintable t) :
    Bookkept unit (page.token t) (ss ++ [.token page.depth t]) := by
  by_cases hempty : t = ""
  · have hpage : page.token t = page := by rw [Page.token, if_pos hempty]
    have hopens : (Stroke.token page.depth t).opens = false := by simp [Stroke.opens, hempty]
    rw [hpage]
    apply h.same rfl
    rw [opener?_concat ss rfl, hopens, Bool.and_false]
    exact Option.or_none
  · have hsettled := pending_flush page
    rw [← token_flush page hempty, token_eq_extend hsettled ht.plain]
    apply Bookkept.extend _ hsettled ht.oneLine
    exact h.flush hunit rfl (by simpa [Stroke.opens] using hempty) rfl

theorem char (h : Bookkept unit page ss) (hunit : ∀ c ∈ unit.toList, c = ' ' ∨ c = '\t')
    (c : Char) : Bookkept unit (page.char c) (ss ++ [.char page.depth c]) := by
  by_cases hbreak : c = '\n'
  · subst hbreak
    exact h.newLine rfl
  · have hflush := h.flush hunit (s := .char page.depth c) (by simpa [Stroke.isBreak] using hbreak)
      (by simpa [Stroke.opens] using hbreak) rfl
    rw [← char_flush page hbreak]
    by_cases hreturn : c = '\r'
    · rw [Page.char, if_neg hbreak, if_pos hreturn, flush_of_settled (pending_flush page)]
      exact hflush
    · rw [char_eq_extend (pending_flush page) ⟨hbreak, hreturn⟩]
      exact hflush.extend (pending_flush page) (OneLine.cons ⟨hbreak, hreturn⟩ OneLine.nil)

theorem strike (h : Bookkept unit page ss) (hunit : ∀ c ∈ unit.toList, c = ' ' ∨ c = '\t')
    {s : Stroke} (hs : s.IsPrinted) : Bookkept unit (page.strike s) (ss ++ [s]) := by
  cases s with
  | token depth t => exact (h.atDepth depth).token hunit hs
  | char depth c => exact (h.atDepth depth).char hunit c

theorem foldl_strike (h : Bookkept unit page ss) (hunit : ∀ c ∈ unit.toList, c = ' ' ∨ c = '\t')
    {more : List Stroke} (hmore : ∀ s ∈ more, s.IsPrinted) :
    Bookkept unit (more.foldl Page.strike page) (ss ++ more) := by
  induction more generalizing page ss with
  | nil => simpa using h
  | cons s more ih =>
    obtain ⟨hs, hrest⟩ := List.forall_mem_cons.mp hmore
    have rest := ih (h.strike hunit hs) hrest
    rwa [List.append_assoc] at rest

end Bookkept

/-! ## Whole scripts -/

theorem bookkeeping_matches_text (unit : String)
    (hunit : ∀ c ∈ unit.toList, c = ' ' ∨ c = '\t') (steps : List Step)
    (hsteps : ∀ s ∈ strokesOfAll 0 steps, s.IsPrinted) :
    ∃ trace, runScript { indentUnit := unit } steps = .ok trace ∧
      Recorded { indentUnit := unit } steps trace ∧
      ∀ blocks ss page, Passes { indentUnit := unit } steps blocks ss page →
        page.depth = blocks ∧ Bookkept unit page ss := by
  have haccepted : Accepted (strokesOfAll 0 steps) := fun s hs => (hsteps s hs).isAccepted
  obtain ⟨trace, hrun, -⟩ := exists_runScript { indentUnit := unit } haccepted
  refine ⟨trace, hrun, recorded_runScript (fun step _ => recorded_runStep step) _ hrun, ?_⟩
  intro blocks ss page hpoint
  obtain ⟨hpage, hss⟩ := hpoint.eq_foldl_strike haccepted
  have hkept := (bookkept_empty unit).foldl_strike hunit fun s hs => hsteps s (hss hs)
  rw [hpage]
  exact ⟨Nat.zero_add blocks, hkept.atDepth _⟩

/-- In front of the step that stops a block: a tab of indentation, one of the text, and a letter. -/
theorem bookkeeping_matches_text_stopped :
    ∃ page, Passes { indentUnit := "\t" }
        [.token "f(", .indented [.newLine, .text "\tx\r", .fail, .token "\t"], .newLine] 1
        [.token 0 "f(", .char 1 '\n', .char 1 '\t', .char 1 'x', .char 1 '\r'] page ∧
      page.depth = 1 ∧ page.column = 5 ∧ page.finish = "f(\n\t\tx" ∧ Bookkept "\t" page
        [.token 0 "f(", .char 1 '\n', .char 1 '\t', .char 1 'x', .char 1 '\r'] := by
  obtain ⟨-, -, -, hpoints⟩ := bookkeeping_matches_text "\t" (by decide)
    [.token "f(", .indented [.newLine, .text "\tx\r", .fail, .token "\t"], .newLine] (by decide)
  refine ⟨_, .past rfl rfl (.inside (.past rfl rfl (.past rfl rfl (.here _ _)))), ?_⟩
  obtain ⟨hdepth, hkept⟩ := hpoints _ _ _
    (.past rfl rfl (.inside (.past rfl rfl (.past rfl rfl (.here _ _)))))
  exact ⟨hdepth, by decide +kernel, by decide +kernel, hkept⟩

end Legible.Page
