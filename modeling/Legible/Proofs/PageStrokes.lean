import Legible.Page.Script
import Legible.Proofs.PageText

/-!
# Scripts as strokes

Whatever the nesting of its blocks, a script writes punctuation and characters one after the other,
each at the depth of the blocks around it. Laid out flat as such strokes it leaves the page that the
strokes leave, and it runs to its end if all its punctuation is accepted.
-/

namespace Legible.Page

/-- Punctuation or a character, a line break among them, that is written at a depth. -/
inductive Stroke where
  | token (depth : Nat) (t : String)
  | char (depth : Nat) (c : Char)

def atDepth (page : Page) (depth : Nat) : Page := { page with depth := depth }

def strike (page : Page) : Stroke → Page
  | .token depth t => (page.atDepth depth).token t
  | .char depth c => (page.atDepth depth).char c

/-- ASCII characters without line breaks. -/
def IsPunctuation (t : String) : Prop :=
  ∀ c ∈ t.toList, c.toNat < 0x80 ∧ c ≠ '\n' ∧ c ≠ '\r'

instance (t : String) : Decidable (IsPunctuation t) :=
  inferInstanceAs (Decidable (∀ c ∈ t.toList, c.toNat < 0x80 ∧ c ≠ '\n' ∧ c ≠ '\r'))

theorem checkToken_eq_ok_iff (t : String) : checkToken t = .ok () ↔ IsPunctuation t := by
  unfold checkToken IsPunctuation
  constructor
  · intro h c hc
    split at h
    · cases h
    · rename_i hascii
      split at h
      · cases h
      · rename_i hbreak
        simp only [List.any_eq_true, decide_eq_true_eq, not_exists, not_and] at hascii
        simp only [List.any_eq_true, Bool.or_eq_true, beq_iff_eq, not_exists, not_and, not_or]
          at hbreak
        have := hascii c hc
        exact ⟨by omega, hbreak c hc⟩
  · intro h
    rw [if_neg, if_neg]
    · simp only [List.any_eq_true, Bool.or_eq_true, beq_iff_eq, not_exists, not_and, not_or]
      exact fun c hc => (h c hc).2
    · simp only [List.any_eq_true, decide_eq_true_eq, not_exists, not_and]
      intro c hc
      have := (h c hc).1
      omega

/-- ASCII characters from the space to the tilde. -/
def IsPrintable (t : String) : Prop := ∀ c ∈ t.toList, 0x20 ≤ c.toNat ∧ c.toNat < 0x7F

instance (t : String) : Decidable (IsPrintable t) :=
  inferInstanceAs (Decidable (∀ c ∈ t.toList, 0x20 ≤ c.toNat ∧ c.toNat < 0x7F))

theorem IsPrintable.isPunctuation {t : String} (h : IsPrintable t) : IsPunctuation t := by
  intro c hc
  obtain ⟨hlow, hhigh⟩ := h c hc
  refine ⟨by omega, ?_, ?_⟩
  · rintro rfl
    exact absurd hlow (by decide)
  · rintro rfl
    exact absurd hlow (by decide)

theorem IsPrintable.oneLine {t : String} (h : IsPrintable t) : OneLine t.toList :=
  fun c hc => (h.isPunctuation c hc).2

theorem IsPrintable.plain {t : String} (h : IsPrintable t) : Text.Plain t := by
  have hwidth : ∀ cs : List Char, (∀ c ∈ cs, 0x20 ≤ c.toNat ∧ c.toNat < 0x7F) →
      Text.width cs = cs.length := by
    intro cs hcs
    induction cs with
    | nil => rfl
    | cons c cs ih =>
      obtain ⟨hc, hrest⟩ := List.forall_mem_cons.mp hcs
      have hone : Text.charWidth c = 1 := by rw [Text.charWidth, if_pos hc]
      rw [Text.width_cons, hone, ih hrest, List.length_cons, Nat.add_comm]
  exact hwidth t.toList h

/-! ## Depth -/

structure Keeps (page later : Page) : Prop where
  depth : later.depth = page.depth
  indentUnit : later.indentUnit = page.indentUnit

theorem keeps_indentBy (page : Page) (n : Nat) : Keeps page (page.indentBy n) := by
  induction n generalizing page with
  | zero => exact ⟨rfl, rfl⟩
  | succ n ih =>
    obtain ⟨hdepth, hunit⟩ := ih { page with
      buffer := page.buffer ++ page.indentUnit
      column := page.column + indentWidth page.indentUnit.toList }
    exact ⟨hdepth, hunit⟩

theorem keeps_flush (page : Page) : Keeps page page.flush := by
  unfold flush
  split
  · split
    · obtain ⟨hdepth, hunit⟩ := keeps_indentBy { page with pending := false, column := 0 } page.depth
      exact ⟨hdepth, hunit⟩
    · obtain ⟨hdepth, hunit⟩ := keeps_indentBy { page with
        pending := false
        buffer := page.buffer.push '\n'
        line := page.line + 1
        column := 0 } page.depth
      exact ⟨hdepth, hunit⟩
  · exact ⟨rfl, rfl⟩

theorem keeps_newLine (page : Page) : Keeps page page.newLine := by
  unfold newLine
  split <;> exact ⟨rfl, rfl⟩

theorem keeps_token (page : Page) (t : String) : Keeps page (page.token t) := by
  unfold token
  split
  · exact ⟨rfl, rfl⟩
  · exact ⟨(keeps_flush page).depth, (keeps_flush page).indentUnit⟩

theorem keeps_char (page : Page) (c : Char) : Keeps page (page.char c) := by
  unfold char
  split
  · exact keeps_newLine page
  · dsimp only
    split
    · exact keeps_flush page
    · exact ⟨(keeps_flush page).depth, (keeps_flush page).indentUnit⟩

theorem keeps_foldl_char (page : Page) (cs : List Char) : Keeps page (cs.foldl char page) := by
  induction cs generalizing page with
  | nil => exact ⟨rfl, rfl⟩
  | cons c cs ih =>
    have first := keeps_char page c
    have rest := ih (page.char c)
    exact ⟨rest.depth.trans first.depth, rest.indentUnit.trans first.indentUnit⟩

theorem indentUnit_strike (page : Page) (s : Stroke) :
    (page.strike s).indentUnit = page.indentUnit := by
  cases s with
  | token depth t => exact (keeps_token _ t).indentUnit
  | char depth c => exact (keeps_char _ c).indentUnit

theorem atDepth_of_eq {page : Page} {depth : Nat} (h : page.depth = depth) :
    page.atDepth depth = page := by
  subst h
  rfl

theorem strike_atDepth (page : Page) (depth : Nat) (s : Stroke) :
    (page.atDepth depth).strike s = page.strike s := by
  cases s <;> rfl

/-- The depth that strokes begin at is of no account, as each brings its own. -/
theorem foldl_strike_atDepth (page : Page) (first last : Nat) (ss : List Stroke) :
    (ss.foldl strike (page.atDepth first)).atDepth last = (ss.foldl strike page).atDepth last := by
  cases ss with
  | nil => rfl
  | cons s ss => rw [List.foldl_cons, List.foldl_cons, strike_atDepth]

theorem foldl_strike_char (page : Page) (cs : List Char) :
    (cs.map (.char page.depth)).foldl strike page = cs.foldl char page := by
  induction cs generalizing page with
  | nil => rfl
  | cons c cs ih =>
    have hfirst : page.strike (.char page.depth c) = page.char c := rfl
    rw [List.map_cons, List.foldl_cons, List.foldl_cons, hfirst, ← (keeps_char page c).depth, ih]

/-! ## Runs -/

namespace Step

@[elab_as_elim]
theorem induction {motive : Step → Prop} (token : ∀ t, motive (.token t))
    (text : ∀ s, motive (.text s)) (writeLine : ∀ s, motive (.writeLine s))
    (newLine : motive .newLine)
    (indented : ∀ steps, (∀ step ∈ steps, motive step) → motive (.indented steps))
    (fail : motive .fail) (step : Step) : motive step := by
  refine @Step.rec motive (fun steps => ∀ step ∈ steps, motive step)
    token text writeLine newLine indented fail ?_ ?_ step
  · exact nofun
  · exact fun step steps hstep hsteps => List.forall_mem_cons.mpr ⟨hstep, hsteps⟩

def stops : Step → Bool
  | .fail => true
  | _ => false

mutual

def strokes (depth : Nat) : Step → List Stroke
  | .token t => [.token depth t]
  | .text s => s.toList.map (.char depth)
  | .writeLine s => s.toList.map (.char depth) ++ [.char depth '\n']
  | .newLine => [.char depth '\n']
  | .indented steps => strokesOfAll (depth + 1) steps
  | .fail => []
termination_by structural step => step

def strokesOfAll (depth : Nat) : List Step → List Stroke
  | [] => []
  | step :: rest =>
    strokes depth step ++ if step.stops then [] else strokesOfAll depth rest
termination_by structural steps => steps

end

end Step

open Step (strokesOfAll)

def Stroke.IsAccepted : Stroke → Prop
  | .token _ t => IsPunctuation t
  | .char _ _ => True

instance : DecidablePred Stroke.IsAccepted
  | .token _ t => inferInstanceAs (Decidable (IsPunctuation t))
  | .char _ _ => inferInstanceAs (Decidable True)

def Accepted (ss : List Stroke) : Prop := ∀ s ∈ ss, s.IsAccepted

instance (ss : List Stroke) : Decidable (Accepted ss) :=
  inferInstanceAs (Decidable (∀ s ∈ ss, s.IsAccepted))

theorem Accepted.left {as bs : List Stroke} (h : Accepted (as ++ bs)) : Accepted as :=
  fun s hs => h s (List.mem_append_left bs hs)

theorem Accepted.right {as bs : List Stroke} (h : Accepted (as ++ bs)) : Accepted bs :=
  fun s hs => h s (List.mem_append_right as hs)

/-- A run came to an end on the page that the strokes leave, at the depth it began at. -/
def Leaves (page : Page) (ss : List Stroke) (stopped : Bool) (r : Except TokenFault Trace) : Prop :=
  ∃ trace, r = .ok trace ∧ trace.page = (ss.foldl strike page).atDepth page.depth ∧
    trace.stopped = stopped

theorem leaves_completed {page later : Page} {ss : List Stroke} (inner : List Position)
    (h : later = (ss.foldl strike page).atDepth page.depth) :
    Leaves page ss false (.ok (.completed later inner)) := ⟨_, rfl, h, rfl⟩

/-- Running a list of steps, from what is known of each. -/
theorem leaves_runScript {steps : List Step}
    (hsteps : ∀ step ∈ steps, ∀ page : Page, Accepted (step.strokes page.depth) →
      Leaves page (step.strokes page.depth) step.stops (runStep page step))
    (page : Page) (h : Accepted (strokesOfAll page.depth steps)) :
    Leaves page (strokesOfAll page.depth steps) (steps.any Step.stops) (runScript page steps) := by
  induction steps generalizing page with
  | nil => exact ⟨_, rfl, rfl, rfl⟩
  | cons step rest ih =>
    obtain ⟨hstep, hrest⟩ := List.forall_mem_cons.mp hsteps
    rw [strokesOfAll] at h ⊢
    obtain ⟨first, hrun, hpage, hstopped⟩ := hstep page h.left
    rw [runScript, hrun, List.any_cons]
    cases hs : step.stops with
    | true =>
      refine ⟨first, ?_, ?_, ?_⟩
      · change (if first.stopped = true then Except.ok first else _) = _
        rw [hstopped, hs, if_pos rfl]
      · rw [if_pos rfl, List.append_nil, hpage]
      · rw [hstopped, hs, Bool.true_or]
    | false =>
      have hdepth : first.page.depth = page.depth := by rw [hpage]; rfl
      rw [hs, if_neg Bool.false_ne_true] at h
      rw [if_neg Bool.false_ne_true]
      obtain ⟨more, hmore, hlast, hend⟩ := ih hrest first.page (hdepth ▸ h.right)
      refine ⟨⟨more.page, first.positions ++ more.positions, more.stopped⟩, ?_, ?_, ?_⟩
      · change (if first.stopped = true then Except.ok first else _) = _
        rw [hstopped, hs, if_neg Bool.false_ne_true, hmore]
        rfl
      · change more.page = _
        rw [hlast, hdepth, hpage, foldl_strike_atDepth, List.foldl_append]
      · rw [Bool.false_or]
        exact hend

theorem leaves_runStep (step : Step) (page : Page) (h : Accepted (step.strokes page.depth)) :
    Leaves page (step.strokes page.depth) step.stops (runStep page step) := by
  induction step using Step.induction generalizing page with
  | token t =>
    have ht : checkToken t = .ok () :=
      (checkToken_eq_ok_iff t).mpr (h (.token page.depth t) List.mem_cons_self)
    rw [runStep, ht]
    exact leaves_completed [] (atDepth_of_eq (keeps_token page t).depth).symm
  | text s =>
    rw [runStep]
    apply leaves_completed
    rw [Step.strokes, foldl_strike_char, atDepth_of_eq (keeps_foldl_char page _).depth]
    rfl
  | writeLine s =>
    rw [runStep]
    apply leaves_completed
    have hdepth := (keeps_foldl_char page s.toList).depth
    rw [Step.strokes, List.foldl_append, foldl_strike_char, ← hdepth]
    exact (atDepth_of_eq (keeps_newLine _).depth).symm
  | newLine =>
    rw [runStep]
    exact leaves_completed [] (atDepth_of_eq (keeps_newLine page).depth).symm
  | indented steps ih =>
    rw [Step.strokes] at h ⊢
    obtain ⟨body, hbody, hpage, -⟩ := leaves_runScript ih (page.atDepth (page.depth + 1)) h
    rw [runStep]
    change Leaves page _ false ((runScript (page.atDepth (page.depth + 1)) steps).map _)
    rw [hbody]
    apply leaves_completed
    change body.page.atDepth page.depth = _
    rw [hpage]
    exact foldl_strike_atDepth page (page.depth + 1) page.depth _
  | fail => exact ⟨_, rfl, rfl, rfl⟩

/-- A script of accepted punctuation leaves the page that its strokes leave. -/
theorem exists_runScript (page : Page) {steps : List Step}
    (h : Accepted (strokesOfAll page.depth steps)) :
    ∃ trace, runScript page steps = .ok trace ∧
      trace.page = ((strokesOfAll page.depth steps).foldl strike page).atDepth page.depth := by
  obtain ⟨trace, hrun, hpage, -⟩ := leaves_runScript (fun step _ => leaves_runStep step) page h
  exact ⟨trace, hrun, hpage⟩

end Legible.Page
