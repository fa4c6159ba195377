import Legible.Proofs.SnapshotRuns
import Mathlib.Data.List.TakeWhile

/-!
# Calls that share a session

Any number of calls are under way at once and share one session. A call touches the session in
atomic steps: a registration claims its turn, looks whether a snapshot was taken, and adds the
converter; a snapshot is noted first and its text made afterwards. The steps of all calls come in
one order, which a schedule chooses freely, and a history keeps who did what. What a registration is
told follows from the history: from who claimed first, and from whether a snapshot was noted before
that call looked.
-/

namespace Legible.Session

@[simp]
theorem initialized_treatAsText (s : Session) (k : Subject.Kind) (c : Converter) :
    (s.treatAsText k c).initialized = s.initialized :=
  rfl

@[simp]
theorem snapshotTaken_treatAsText (s : Session) (k : Subject.Kind) (c : Converter) :
    (s.treatAsText k c).snapshotTaken = s.snapshotTaken :=
  rfl

theorem isRegistered_treatAsText (s : Session) (k l : Subject.Kind) (c : Converter) :
    (s.treatAsText k c).isRegistered l = (s.isRegistered l || decide (k = l)) := by
  unfold isRegistered
  by_cases h : k = l
  · subst h
    simp [lookup_treatAsText]
  · rw [lookup_treatAsText_of_ne s (Ne.symm h)]
    simp [h]

end Legible.Session

namespace Legible.Concurrent

open Session

inductive Call where
  | register
  | treatAsText (kind : Subject.Kind) (converter : Converter)
  | render (e : Expr)
  | field (snapshot : Snapshot) (name : String) (x : Subject)
  | toSnapshot (x : Subject)
  | toJson (snapshot : Snapshot)

inductive Registration where
  | begun
  /-- It was the first to claim its turn. -/
  | claimed
  /-- It found that no snapshot was taken. -/
  | cleared
  | returned (result : Except Error Unit)

inductive Taking (α : Type) where
  | begun
  | noted
  | returned (result : α)

inductive Task where
  | register (stage : Registration)
  | treatAsText (kind : Subject.Kind) (converter : Converter) (done : Bool)
  | render (e : Expr) (result : Option (Except Error String))
  | field (snapshot : Snapshot) (name : String) (x : Subject)
      (result : Option (Except Error Snapshot))
  | toSnapshot (x : Subject) (stage : Taking (Except Error String))
  | toJson (snapshot : Snapshot) (stage : Taking String)

inductive Action where
  | swap
  | load
  | insert
  | treat (kind : Subject.Kind)
  | store
  | convert
  | render
deriving DecidableEq

structure Event where
  caller : Nat
  action : Action
deriving DecidableEq

def Call.begin : Call → Task
  | .register => .register .begun
  | .treatAsText kind converter => .treatAsText kind converter false
  | .render e => .render e none
  | .field snapshot name x => .field snapshot name x none
  | .toSnapshot x => .toSnapshot x .begun
  | .toJson snapshot => .toJson snapshot .begun

def Call.perform (s : Session) : Call → Session × Task
  | .register => (s.register.1, .register (.returned s.register.2))
  | .treatAsText kind converter =>
    (s.treatAsText kind converter, .treatAsText kind converter true)
  | .render e => (s, .render e (some (Legible.render {} e)))
  | .field snapshot name x => (s, .field snapshot name x (some (snapshot.field s name x)))
  | .toSnapshot x => ((s.toSnapshot x).1, .toSnapshot x (.returned (s.toSnapshot x).2))
  | .toJson snapshot => ((snapshot.toJson s).1, .toJson snapshot (.returned (snapshot.toJson s).2))

def Registration.advance (s : Session) : Registration → Option (Action × Session × Registration)
  | .begun =>
    some (.swap, s.markInitialized,
      if s.initialized then .returned (.error .alreadyInitialized) else .claimed)
  | .claimed =>
    some (.load, s,
      match s.ensureNoSnapshot with
      | .error fault => .returned (.error fault)
      | .ok () => .cleared)
  | .cleared => some (.insert, s.treatAsText .expr exprConverter, .returned (.ok ()))
  | .returned _ => none

def Task.advance (s : Session) : Task → Option (Action × Session × Task)
  | .register stage =>
    (stage.advance s).map fun (action, s', stage') => (action, s', .register stage')
  | .treatAsText kind converter false =>
    some (.treat kind, s.treatAsText kind converter, .treatAsText kind converter true)
  | .render e none => some (.render, s, .render e (some (Legible.render {} e)))
  | .field snapshot name x none =>
    some (.convert, s, .field snapshot name x (some (snapshot.field s name x)))
  | .toSnapshot x .begun => some (.store, s.markSnapshot, .toSnapshot x .noted)
  | .toSnapshot x .noted =>
    some (.convert, s, .toSnapshot x (.returned ((s.convert x).getD (.ok x.encode.indented))))
  | .toJson snapshot .begun => some (.store, s.markSnapshot, .toJson snapshot .noted)
  | .toJson snapshot .noted =>
    some (.convert, s, .toJson snapshot (.returned (Json.object snapshot.fields).indented))
  | _ => none

def Task.advanceBy : Nat → Session → Task → Session × Task
  | 0, s, t => (s, t)
  | n + 1, s, t =>
    match t.advance s with
    | none => (s, t)
    | some (_, s', next) => next.advanceBy n s'

structure System where
  session : Session := {}
  tasks : List Task
  /-- The steps taken so far, the oldest first. -/
  history : List Event := []

namespace System

/-- One step of the call with that number; nothing happens if there is none or it has returned. -/
def step (r : System) (caller : Nat) : System :=
  match r.tasks[caller]? with
  | none => r
  | some task =>
    match task.advance r.session with
    | none => r
    | some (action, session, next) =>
      ⟨session, r.tasks.set caller next, r.history ++ [⟨caller, action⟩]⟩

def run (r : System) (schedule : List Nat) : System := schedule.foldl step r

def AtStage (r : System) (caller : Nat) (stage : Registration) : Prop :=
  r.tasks[caller]? = some (.register stage)

def start (calls : List Call) : System := { tasks := calls.map Call.begin }

end System

/-! ## What the history tells -/

def firstSwap? (history : List Event) : Option Nat :=
  (history.find? (·.action = .swap)).map (·.caller)

/-- No snapshot was noted before that caller looked. -/
def LoadsBeforeStores (history : List Event) (caller : Nat) : Prop :=
  ∀ e ∈ history.takeWhile (· ≠ ⟨caller, .load⟩), e.action ≠ .store

instance (history : List Event) (caller : Nat) : Decidable (LoadsBeforeStores history caller) :=
  inferInstanceAs (Decidable (∀ e ∈ _, _))

def Action.RegistersTrees (action : Action) : Prop := action = .insert ∨ action = .treat .expr

instance : DecidablePred Action.RegistersTrees := fun _ => inferInstanceAs (Decidable (_ ∨ _))

variable {history : List Event} {i j : Nat}

theorem firstSwap?_append (more : List Event) :
    firstSwap? (history ++ more) = (firstSwap? history).or (firstSwap? more) := by
  unfold firstSwap?
  rw [List.find?_append]
  cases history.find? _ <;> rfl

theorem swap_mem_of_firstSwap? (h : firstSwap? history = some i) : ⟨i, .swap⟩ ∈ history := by
  obtain ⟨e, he, rfl⟩ := Option.map_eq_some_iff.mp h
  have hswap : e.action = .swap := by simpa using List.find?_some he
  rw [← hswap]
  exact List.mem_of_find?_eq_some he

theorem isSome_firstSwap?_of_mem (h : ⟨i, .swap⟩ ∈ history) : (firstSwap? history).isSome := by
  unfold firstSwap?
  rw [Option.isSome_map, List.find?_isSome]
  exact ⟨_, h, by simp⟩

theorem firstSwap?_append_of_mem (h : ⟨i, .swap⟩ ∈ history) (more : List Event) :
    firstSwap? (history ++ more) = firstSwap? history := by
  rw [firstSwap?_append, Option.or_of_isSome (isSome_firstSwap?_of_mem h)]

theorem loadsBeforeStores_append_of_mem (h : ⟨i, .load⟩ ∈ history) (more : List Event) :
    LoadsBeforeStores (history ++ more) i ↔ LoadsBeforeStores history i := by
  have hstops : (history.takeWhile (· ≠ ⟨i, .load⟩)).length ≠ history.length := by
    intro hlength
    have hall := List.takeWhile_eq_self_iff.mp
      ((List.takeWhile_prefix _).eq_of_length hlength) _ h
    simp at hall
  unfold LoadsBeforeStores
  rw [List.takeWhile_append, if_neg hstops]

theorem loadsBeforeStores_concat_load (h : ⟨i, .load⟩ ∉ history) :
    LoadsBeforeStores (history ++ [⟨i, .load⟩]) i ↔ ∀ e ∈ history, e.action ≠ .store := by
  have hall : ∀ e ∈ history, decide (e ≠ ⟨i, .load⟩) = true := by
    rintro e he
    exact decide_eq_true fun heq => h (heq ▸ he)
  unfold LoadsBeforeStores
  rw [List.takeWhile_append_of_pos hall]
  simp

/-- The session is what the history made of it. -/
structure Reflects (s : Session) (history : List Event) : Prop where
  initialized : s.initialized = (firstSwap? history).isSome
  taken : s.snapshotTaken = history.any (·.action = .store)
  trees : s.isRegistered .expr = history.any (·.action.RegistersTrees)

/-- What a registration was told, as far as it has come, and where the history shows it. -/
def Registration.Recorded (history : List Event) (caller : Nat) : Registration → Prop
  | .begun => ⟨caller, .swap⟩ ∉ history ∧ ⟨caller, .load⟩ ∉ history
  | .claimed => firstSwap? history = some caller ∧ ⟨caller, .load⟩ ∉ history
  | .cleared =>
    firstSwap? history = some caller ∧ ⟨caller, .load⟩ ∈ history ∧ LoadsBeforeStores history caller
  | .returned result =>
    (firstSwap? history ≠ some caller ∧ ⟨caller, .swap⟩ ∈ history ∧
      result = .error .alreadyInitialized) ∨
    (firstSwap? history = some caller ∧ ⟨caller, .load⟩ ∈ history ∧
      result = if LoadsBeforeStores history caller then .ok ()
        else .error (.config "Settings must be configured before the first snapshot is taken"))

namespace Registration

variable {stage next : Registration} {s s' : Session} {a : Action}

theorem Recorded.swap_mem (h : stage.Recorded history i) (hstage : stage ≠ .begun) :
    ⟨i, .swap⟩ ∈ history := by
  cases stage with
  | begun => exact (hstage rfl).elim
  | claimed => exact swap_mem_of_firstSwap? h.1
  | cleared => exact swap_mem_of_firstSwap? h.1
  | returned result =>
    rcases h with ⟨-, hswap, -⟩ | ⟨hfirst, -⟩
    · exact hswap
    · exact swap_mem_of_firstSwap? hfirst

/-- Only the first is not told that it came late. -/
theorem Recorded.eq_alreadyInitialized_iff (h : stage.Recorded history i)
    (hstage : stage ≠ .begun) :
    stage = .returned (.error .alreadyInitialized) ↔ firstSwap? history ≠ some i := by
  cases stage with
  | begun => exact (hstage rfl).elim
  | claimed => exact iff_of_false nofun (not_not.mpr h.1)
  | cleared => exact iff_of_false nofun (not_not.mpr h.1)
  | returned result =>
    rcases h with ⟨hlate, -, rfl⟩ | ⟨hfirst, -, rfl⟩
    · exact iff_of_true rfl hlate
    · refine iff_of_false ?_ (not_not.mpr hfirst)
      split <;> nofun

/-- Steps of other calls change nothing in what is recorded of this one. -/
theorem Recorded.append_other (h : stage.Recorded history i) (hne : i ≠ j) (a : Action) :
    stage.Recorded (history ++ [⟨j, a⟩]) i := by
  have hother (b : Action) : ⟨i, b⟩ ∈ history ++ [⟨j, a⟩] ↔ ⟨i, b⟩ ∈ history := by
    simp [hne]
  have hfirst (hswap : ⟨i, .swap⟩ ∈ history) := firstSwap?_append_of_mem hswap [⟨j, a⟩]
  have hloads (hload : ⟨i, .load⟩ ∈ history) := loadsBeforeStores_append_of_mem hload [⟨j, a⟩]
  cases stage with
  | begun => exact ⟨(hother _).not.mpr h.1, (hother _).not.mpr h.2⟩
  | claimed =>
    have hswap := h.swap_mem nofun
    exact ⟨(hfirst hswap).trans h.1, (hother _).not.mpr h.2⟩
  | cleared =>
    have hswap := h.swap_mem nofun
    exact ⟨(hfirst hswap).trans h.1, (hother _).mpr h.2.1, (hloads h.2.1).mpr h.2.2⟩
  | returned result =>
    have hswap := h.swap_mem nofun
    rcases h with ⟨hlate, -, hresult⟩ | ⟨hwon, hload, hresult⟩
    · exact .inl ⟨by rwa [hfirst hswap], (hother _).mpr hswap, hresult⟩
    · refine .inr ⟨(hfirst hswap).trans hwon, (hother _).mpr hload, ?_⟩
      simp only [hresult, hloads hload]

theorem Recorded.advance (h : stage.Recorded history i) (hs : Reflects s history)
    (hstep : stage.advance s = some (a, s', next)) : next.Recorded (history ++ [⟨i, a⟩]) i := by
  cases stage with
  | begun =>
    cases hstep
    cases hfirst : firstSwap? history with
    | none =>
      have hopen : s.initialized = false := by rw [hs.initialized, hfirst]; rfl
      rw [if_neg (by simp [hopen])]
      refine ⟨?_, by simp [h.2]⟩
      rw [firstSwap?_append, hfirst]
      rfl
    | some k =>
      have hclosed : s.initialized = true := by rw [hs.initialized, hfirst]; rfl
      rw [if_pos hclosed]
      refine .inl ⟨?_, by simp, rfl⟩
      rw [firstSwap?_append, hfirst]
      rintro ⟨⟩
      exact h.1 (swap_mem_of_firstSwap? hfirst)
  | claimed =>
    obtain ⟨hfirst, hload⟩ := h
    have hfirst' : firstSwap? (history ++ [⟨i, .load⟩]) = some i := by
      rw [firstSwap?_append, hfirst]
      rfl
    cases hstep
    unfold ensureNoSnapshot
    have htaken := hs.taken
    cases hnoted : s.snapshotTaken with
    | false =>
      have hnone : ∀ e ∈ history, e.action ≠ .store := by simpa [hnoted] using htaken
      exact ⟨hfirst', by simp, (loadsBeforeStores_concat_load hload).mpr hnone⟩
    | true =>
      have hsome : ¬∀ e ∈ history, e.action ≠ .store := by
        rw [hnoted, eq_comm, List.any_eq_true] at htaken
        obtain ⟨e, he, hstore⟩ := htaken
        exact fun hnone => hnone e he (of_decide_eq_true hstore)
      refine .inr ⟨hfirst', by simp, ?_⟩
      rw [if_neg ((loadsBeforeStores_concat_load hload).not.mpr hsome)]
  | cleared =>
    obtain ⟨hfirst, hload, hbefore⟩ := h
    cases hstep
    refine .inr ⟨?_, List.mem_append_left _ hload, ?_⟩
    · rw [firstSwap?_append, hfirst]
      rfl
    · rw [if_pos ((loadsBeforeStores_append_of_mem hload _).mpr hbefore)]
  | returned result => cases hstep

def remaining : Registration → Nat
  | .begun => 3
  | .claimed => 2
  | .cleared => 1
  | .returned _ => 0

theorem remaining_advance (hstep : stage.advance s = some (a, s', next)) :
    next.remaining < stage.remaining := by
  cases stage with
  | begun =>
    cases hstep
    split <;> decide
  | claimed =>
    cases hstep
    split
    · exact Nat.zero_lt_two
    · exact Nat.one_lt_two
  | cleared =>
    cases hstep
    decide
  | returned result => cases hstep

theorem remaining_of_advance_eq_none (hstep : stage.advance s = none) : stage.remaining = 0 := by
  cases stage with
  | returned result => rfl
  | _ => cases hstep

end Registration

namespace Task

variable {t next : Task} {s s' : Session} {a : Action}

/-- All that a step can do. -/
theorem advance_cases (hstep : t.advance s = some (a, s', next)) :
    (∃ stage stage', t = .register stage ∧ next = .register stage' ∧
      stage.advance s = some (a, s', stage')) ∨
    (∀ stage, t ≠ .register stage ∧ next ≠ .register stage) ∧
      ((∃ kind c, a = .treat kind ∧ s' = s.treatAsText kind c) ∨
        (a = .store ∧ s' = s.markSnapshot) ∨ ((a = .convert ∨ a = .render) ∧ s' = s)) := by
  cases t with
  | register stage =>
    obtain ⟨⟨b, u, stage'⟩, hb, heq⟩ := Option.map_eq_some_iff.mp hstep
    cases heq
    exact .inl ⟨stage, stage', rfl, rfl, hb⟩
  | treatAsText kind c done =>
    cases done <;> cases hstep
    exact .inr ⟨fun _ => ⟨nofun, nofun⟩, .inl ⟨kind, c, rfl, rfl⟩⟩
  | render e result =>
    cases result <;> cases hstep
    exact .inr ⟨fun _ => ⟨nofun, nofun⟩, .inr (.inr ⟨.inr rfl, rfl⟩)⟩
  | field snapshot name x result =>
    cases result <;> cases hstep
    exact .inr ⟨fun _ => ⟨nofun, nofun⟩, .inr (.inr ⟨.inl rfl, rfl⟩)⟩
  | toSnapshot x stage =>
    cases stage <;> cases hstep
    · exact .inr ⟨fun _ => ⟨nofun, nofun⟩, .inr (.inl ⟨rfl, rfl⟩)⟩
    · exact .inr ⟨fun _ => ⟨nofun, nofun⟩, .inr (.inr ⟨.inl rfl, rfl⟩)⟩
  | toJson snapshot stage =>
    cases stage <;> cases hstep
    · exact .inr ⟨fun _ => ⟨nofun, nofun⟩, .inr (.inl ⟨rfl, rfl⟩)⟩
    · exact .inr ⟨fun _ => ⟨nofun, nofun⟩, .inr (.inr ⟨.inl rfl, rfl⟩)⟩

/-- A registration succeeds in the step that adds the converter, and in no other. -/
theorem eq_insert_iff_of_advance (hstep : t.advance s = some (a, s', next)) :
    a = .insert ↔ next = .register (.returned (.ok ())) := by
  rcases advance_cases hstep with ⟨stage, stage', -, rfl, hstage⟩ | ⟨hother, hact⟩
  · cases stage with
    | begun =>
      cases hstage
      cases s.initialized <;> simp
    | claimed =>
      cases hstage
      cases s.ensureNoSnapshot <;> simp
    | cleared =>
      cases hstage
      simp
    | returned result => cases hstage
  · refine iff_of_false ?_ (hother _).2
    rintro rfl
    rcases hact with ⟨kind, c, ha, -⟩ | ⟨ha, -⟩ | ⟨ha | ha, -⟩ <;> cases ha

/-- What a step does to the session is told by its action. -/
theorem advance_session (hstep : t.advance s = some (a, s', next)) :
    s'.initialized = (s.initialized || decide (a = .swap)) ∧
      s'.snapshotTaken = (s.snapshotTaken || decide (a = .store)) ∧
      s'.isRegistered .expr = (s.isRegistered .expr || decide a.RegistersTrees) := by
  rcases advance_cases hstep with ⟨stage, stage', -, -, hstage⟩ |
    ⟨-, ⟨kind, c, rfl, rfl⟩ | ⟨rfl, rfl⟩ | ⟨rfl | rfl, rfl⟩⟩
  · cases stage with
    | begun => cases hstage; simp [markInitialized, isRegistered, Action.RegistersTrees]
    | claimed => cases hstage; simp [Action.RegistersTrees]
    | cleared =>
      cases hstage
      exact ⟨by simp, by simp, isRegistered_treatAsText s ..⟩
    | returned result => cases hstage
  · simp [isRegistered_treatAsText, Action.RegistersTrees]
  · simp [markSnapshot, isRegistered, Action.RegistersTrees]
  · simp [Action.RegistersTrees]
  · simp [Action.RegistersTrees]

theorem advanceBy_of_returned (h : t.advance s = none) (n : Nat) : t.advanceBy n s = (s, t) := by
  cases n with
  | zero => rfl
  | succ n => simp only [advanceBy, h]

end Task

/-- A call that is not disturbed does what the operation does. -/
theorem Call.advanceBy_begin (s : Session) (call : Call) :
    call.begin.advanceBy 3 s = call.perform s := by
  cases call with
  | register =>
    change Task.advanceBy 2 s.markInitialized (.register _) = (s.register.1, .register _)
    unfold Session.register
    cases hclaimed : s.initialized with
    | true =>
      have hs : s.markInitialized = s := by
        rw [markInitialized, ← hclaimed]
      rw [hs]
      rfl
    | false =>
      change Task.advanceBy 1 s.markInitialized (.register _) = _
      rw [if_neg Bool.false_ne_true]
      dsimp only
      cases s.markInitialized.ensureNoSnapshot <;> rfl
  | _ => rfl

theorem Reflects.advance {s s' : Session} {t next : Task} {a : Action} (h : Reflects s history)
    (hstep : t.advance s = some (a, s', next)) : Reflects s' (history ++ [⟨i, a⟩]) := by
  obtain ⟨hinitialized, htaken, htrees⟩ := Task.advance_session hstep
  constructor
  · rw [hinitialized, h.initialized, firstSwap?_append, Option.isSome_or]
    by_cases ha : a = .swap <;> simp [firstSwap?, ha]
  · rw [htaken, h.taken]
    simp
  · rw [htrees, h.trees]
    simp

/-! ## Runs -/

namespace System

variable {r : System}

theorem step_cases (r : System) (i : Nat) :
    (r.step i = r ∧ ∀ t, r.tasks[i]? = some t → t.advance r.session = none) ∨
    ∃ t a session next, r.tasks[i]? = some t ∧ t.advance r.session = some (a, session, next) ∧
      r.step i = ⟨session, r.tasks.set i next, r.history ++ [⟨i, a⟩]⟩ := by
  unfold step
  split
  · rename_i hnone
    exact .inl ⟨rfl, by simp [hnone]⟩
  · rename_i t ht
    split
    · rename_i hstep
      refine .inl ⟨rfl, ?_⟩
      rintro t' ht'
      rw [ht] at ht'
      cases ht'
      exact hstep
    · rename_i a session next hstep
      exact .inr ⟨t, a, session, next, ht, hstep, rfl⟩

theorem step_of_returned {t : Task} (ht : r.tasks[i]? = some t)
    (hnone : t.advance r.session = none) : r.step i = r := by
  simp only [step, ht, hnone]

theorem step_of_advance {t next : Task} {a : Action} {session : Session}
    (ht : r.tasks[i]? = some t) (hadvance : t.advance r.session = some (a, session, next)) :
    r.step i = ⟨session, r.tasks.set i next, r.history ++ [⟨i, a⟩]⟩ := by
  simp only [step, ht, hadvance]

theorem getElem?_set_task {t : Task} (ht : r.tasks[i]? = some t) (next : Task) :
    (r.tasks.set i next)[i]? = some next := by
  rw [List.getElem?_set_self', ht]
  rfl

structure Sound (r : System) : Prop where
  session : Reflects r.session r.history
  registrations : ∀ i stage, r.AtStage i stage → stage.Recorded r.history i
  inserts : ∀ i, ⟨i, .insert⟩ ∈ r.history ↔ r.AtStage i (.returned (.ok ()))

theorem atStage_start_iff {calls : List Call} {stage : Registration} :
    (start calls).AtStage i stage ↔ calls[i]? = some .register ∧ stage = .begun := by
  rw [AtStage, start, List.getElem?_map]
  constructor
  · intro hstage
    obtain ⟨call, hcall, hbegin⟩ := Option.map_eq_some_iff.mp hstage
    cases call <;> cases hbegin
    exact ⟨hcall, rfl⟩
  · rintro ⟨hcall, rfl⟩
    rw [hcall]
    rfl

theorem sound_start (calls : List Call) : (start calls).Sound where
  session := ⟨rfl, rfl, rfl⟩
  registrations := by
    intro i stage hstage
    rw [(atStage_start_iff.mp hstage).2]
    exact ⟨List.not_mem_nil, List.not_mem_nil⟩
  inserts := by
    intro i
    refine iff_of_false List.not_mem_nil fun hstage => ?_
    cases (atStage_start_iff.mp hstage).2

theorem tasks_step_of_ne (r : System) {i j : Nat} (h : j ≠ i) :
    (r.step i).tasks[j]? = r.tasks[j]? := by
  rcases r.step_cases i with ⟨hstep, -⟩ | ⟨t, a, session, next, -, -, hstep⟩
  · rw [hstep]
  · rw [hstep]
    exact List.getElem?_set_ne h.symm

theorem Sound.step (h : r.Sound) (i : Nat) : (r.step i).Sound := by
  rcases r.step_cases i with ⟨hstep, -⟩ | ⟨t, a, session, next, ht, hadvance, hstep⟩
  · rwa [hstep]
  have hother {j : Nat} (hj : j ≠ i) : (r.tasks.set i next)[j]? = r.tasks[j]? :=
    List.getElem?_set_ne hj.symm
  have hown := getElem?_set_task ht next
  rw [hstep]
  refine ⟨h.session.advance hadvance, ?_, ?_⟩
  · intro j stage hstage
    by_cases hj : j = i
    · subst hj
      cases hown.symm.trans hstage
      rcases Task.advance_cases hadvance with ⟨before, after, rfl, hafter, hbefore⟩ | ⟨hnone, -⟩
      · cases hafter
        exact (h.registrations j before ht).advance h.session hbefore
      · exact ((hnone stage).2 rfl).elim
    · exact (h.registrations j stage ((hother hj).symm.trans hstage)).append_other hj a
  · intro j
    by_cases hj : j = i
    · subst hj
      have hold : ⟨j, .insert⟩ ∉ r.history := by
        intro hinsert
        cases ht.symm.trans ((h.inserts j).mp hinsert)
        cases hadvance
      rw [AtStage, hown, Option.some_inj, ← Task.eq_insert_iff_of_advance hadvance]
      simp [hold, eq_comm]
    · rw [AtStage, hother hj, ← AtStage, ← h.inserts j]
      simp [hj]

theorem run_append (r : System) (schedule more : List Nat) :
    r.run (schedule ++ more) = (r.run schedule).run more :=
  List.foldl_append

theorem Sound.run (h : r.Sound) (schedule : List Nat) : (r.run schedule).Sound := by
  induction schedule generalizing r with
  | nil => exact h
  | cons i rest ih => exact ih (h.step i)

theorem history_run (r : System) (schedule : List Nat) :
    r.history <+: (r.run schedule).history := by
  induction schedule generalizing r with
  | nil => exact List.prefix_rfl
  | cons i rest ih =>
    refine List.IsPrefix.trans ?_ (ih (r.step i))
    rcases r.step_cases i with ⟨hstep, -⟩ | ⟨t, a, session, next, -, -, hstep⟩
    · exact hstep.symm ▸ List.prefix_rfl
    · rw [hstep]
      exact List.prefix_append _ _

/-- A registration comes nearer to its end by each step it is given. -/
theorem AtStage.step {stage : Registration} (h : r.AtStage i stage) :
    ∃ next, (r.step i).AtStage i next ∧ next.remaining ≤ stage.remaining - 1 := by
  rcases r.step_cases i with ⟨hstep, hnone⟩ | ⟨t, a, session, next, ht, hadvance, hstep⟩
  · refine ⟨stage, by rwa [hstep], ?_⟩
    have hdone := Option.map_eq_none_iff.mp (hnone _ h)
    rw [Registration.remaining_of_advance_eq_none hdone]
  · cases ht.symm.trans h
    rcases Task.advance_cases hadvance with ⟨before, after, hbefore, rfl, hstage⟩ | ⟨hother, -⟩
    · cases hbefore
      refine ⟨after, ?_, Nat.le_sub_one_of_lt (Registration.remaining_advance hstage)⟩
      rw [hstep]
      exact getElem?_set_task ht _
    · exact ((hother stage).1 rfl).elim

theorem AtStage.run {stage : Registration} (h : r.AtStage i stage) (schedule : List Nat) :
    ∃ next, (r.run schedule).AtStage i next ∧
      next.remaining ≤ stage.remaining - schedule.count i := by
  induction schedule generalizing r stage with
  | nil => exact ⟨stage, h, Nat.le_refl _⟩
  | cons j rest ih =>
    by_cases hj : i = j
    · subst hj
      obtain ⟨middle, hmiddle, hless⟩ := h.step
      obtain ⟨next, hnext, hle⟩ := ih hmiddle
      refine ⟨next, hnext, ?_⟩
      rw [List.count_cons_self]
      omega
    · obtain ⟨next, hnext, hle⟩ := ih ((r.tasks_step_of_ne hj).trans h)
      refine ⟨next, hnext, ?_⟩
      rwa [List.count_cons_of_ne (Ne.symm hj)]

theorem AtStage.run_returned {result : Except Error Unit} (h : r.AtStage i (.returned result))
    (schedule : List Nat) : (r.run schedule).AtStage i (.returned result) := by
  induction schedule generalizing r with
  | nil => exact h
  | cons j rest ih =>
    apply ih
    by_cases hj : i = j
    · subst hj
      rwa [step_of_returned h rfl]
    · exact (r.tasks_step_of_ne hj).trans h

/-- Steps given to one call only are its steps while all others wait. -/
theorem run_replicate {t : Task} (ht : r.tasks[i]? = some t) (n : Nat) :
    (r.run (.replicate n i)).session = (t.advanceBy n r.session).1 ∧
      (r.run (.replicate n i)).tasks[i]? = some (t.advanceBy n r.session).2 := by
  induction n generalizing r t with
  | zero => exact ⟨rfl, ht⟩
  | succ n ih =>
    change ((r.step i).run (.replicate n i)).session = _ ∧
      ((r.step i).run (.replicate n i)).tasks[i]? = _
    rw [Task.advanceBy]
    cases hadvance : t.advance r.session with
    | none =>
      rw [step_of_returned ht hadvance]
      have hwaits := ih ht
      rwa [Task.advanceBy_of_returned hadvance n] at hwaits
    | some result =>
      obtain ⟨a, session, next⟩ := result
      rw [step_of_advance ht hadvance]
      exact ih (getElem?_set_task ht next)

theorem tasks_run_of_notMem (r : System) {schedule : List Nat} (h : i ∉ schedule) :
    (r.run schedule).tasks[i]? = r.tasks[i]? := by
  induction schedule generalizing r with
  | nil => rfl
  | cons j rest ih =>
    obtain ⟨hj, hrest⟩ := not_or.mp (List.mem_cons.not.mp h)
    exact (ih (r.step j) hrest).trans (r.tasks_step_of_ne hj)

theorem Sound.firstSwap?_of_returned (h : r.Sound) {result : Except Error Unit}
    (hi : r.AtStage i (.returned result)) (hresult : result ≠ .error .alreadyInitialized) :
    firstSwap? r.history = some i := by
  by_contra hlate
  have hstage := ((h.registrations i _ hi).eq_alreadyInitialized_iff nofun).mpr hlate
  cases hstage
  exact hresult rfl

/-- Whatever the schedule, registration happens at most once, and not at all if a snapshot was noted
before the winner looked. -/
theorem registration_at_most_once (calls : List Call) (schedule : List Nat) :
    let r := (start calls).run schedule
    -- calls return, and one that is not disturbed does what the session's operation does
    (∀ i, calls[i]? = some .register → 3 ≤ schedule.count i →
      ∃ result, r.AtStage i (.returned result)) ∧
    (∀ i call, calls[i]? = some call → i ∉ schedule →
      let later := (start calls).run (schedule ++ .replicate 3 i)
      later.session = (call.perform r.session).1 ∧
        later.tasks[i]? = some (call.perform r.session).2) ∧
    -- who is told what
    (∀ i, calls[i]? = some .register → i ∈ schedule →
      (r.AtStage i (.returned (.error .alreadyInitialized)) ↔ firstSwap? r.history ≠ some i)) ∧
    (∀ i result, firstSwap? r.history = some i → r.AtStage i (.returned result) →
      ⟨i, .load⟩ ∈ r.history ∧
        result = if LoadsBeforeStores r.history i then .ok ()
          else .error (.config "Settings must be configured before the first snapshot is taken")) ∧
    (∀ i, ⟨i, .insert⟩ ∈ r.history ↔ r.AtStage i (.returned (.ok ()))) ∧
    (∀ i j, r.AtStage i (.returned (.ok ())) → r.AtStage j (.returned (.ok ())) → i = j) ∧
    -- what becomes of the converter
    (∀ i message, r.AtStage i (.returned (.error (.config message))) →
      ∀ more j, ⟨j, .insert⟩ ∉ ((start calls).run (schedule ++ more)).history) ∧
    (r.session.isRegistered .expr = true ↔ ∃ e ∈ r.history, e.action.RegistersTrees) ∧
    (r.session.isRegistered .expr = true →
      ∀ more, ((start calls).run (schedule ++ more)).session.isRegistered .expr = true) := by
  intro r
  have hsound := (sound_start calls).run schedule
  have htrees (schedule : List Nat) :
      ((start calls).run schedule).session.isRegistered .expr = true ↔
        ∃ e ∈ ((start calls).run schedule).history, e.action.RegistersTrees := by
    rw [((sound_start calls).run schedule).session.trees]
    simp
  refine ⟨?_, ?_, ?_, ?_, ?_, ?_, ?_, htrees schedule, ?_⟩
  · intro i hcall hcount
    obtain ⟨stage, hstage, hleft⟩ := (atStage_start_iff.mpr ⟨hcall, rfl⟩).run schedule
    cases stage with
    | returned result => exact ⟨result, hstage⟩
    | _ => simp only [Registration.remaining] at hleft; omega
  · intro i call hcall hfresh
    have htask : r.tasks[i]? = some call.begin := by
      rw [tasks_run_of_notMem _ hfresh, start, List.getElem?_map, hcall]
      rfl
    rw [← call.advanceBy_begin, run_append]
    exact run_replicate htask 3
  · intro i hcall hmem
    obtain ⟨stage, hstage, hleft⟩ := (atStage_start_iff.mpr ⟨hcall, rfl⟩).run schedule
    have hcount := List.count_pos_iff.mpr hmem
    have hbegun : stage ≠ .begun := by
      rintro rfl
      simp only [Registration.remaining] at hleft
      omega
    rw [← (hsound.registrations i stage hstage).eq_alreadyInitialized_iff hbegun, AtStage, hstage]
    simp
  · intro i result hfirst hreturned
    rcases hsound.registrations i _ hreturned with ⟨hlate, -⟩ | ⟨-, hload, hresult⟩
    · exact (hlate hfirst).elim
    · exact ⟨hload, hresult⟩
  · exact hsound.inserts
  · intro i j hi hj
    have hfirst := hsound.firstSwap?_of_returned hi nofun
    rw [hsound.firstSwap?_of_returned hj nofun] at hfirst
    exact (Option.some_inj.mp hfirst).symm
  · intro i message hi more j hinsert
    have hlater := (sound_start calls).run (schedule ++ more)
    have hj := (hlater.inserts j).mp hinsert
    have hi' := AtStage.run_returned hi more
    rw [← run_append] at hi'
    have hfirst := hlater.firstSwap?_of_returned hi' nofun
    rw [hlater.firstSwap?_of_returned hj nofun] at hfirst
    cases hfirst
    cases hi'.symm.trans hj
  · intro hregistered more
    obtain ⟨e, he, htree⟩ := (htrees schedule).mp hregistered
    refine (htrees _).mpr ⟨e, ?_, htree⟩
    rw [run_append]
    exact (history_run _ more).subset he

/-- A snapshot that is noted after the winner looked, and one that is noted before. -/
theorem registration_at_most_once_race :
    let calls : List Call := [.register, .toSnapshot (.label "a"), .register]
    let early := (start calls).run [0, 0, 1, 0, 2]
    let late := (start calls).run [0, 1, 0, 2]
    early.AtStage 0 (.returned (.ok ())) ∧
      early.AtStage 2 (.returned (.error .alreadyInitialized)) ∧
      late.AtStage 0 (.returned (.error
        (.config "Settings must be configured before the first snapshot is taken"))) ∧
      ∀ more j, ⟨j, .insert⟩ ∉ ((start calls).run ([0, 1, 0, 2] ++ more)).history := by
  intro calls early late
  obtain ⟨-, -, htold, -, hinserts, -⟩ := registration_at_most_once calls [0, 0, 1, 0, 2]
  obtain ⟨-, -, -, -, -, -, hnever, -⟩ := registration_at_most_once calls [0, 1, 0, 2]
  refine ⟨(hinserts 0).mp (by decide), (htold 2 rfl (by decide)).mpr (by decide), rfl, ?_⟩
  exact hnever 0 _ rfl

end System

end Legible.Concurrent
