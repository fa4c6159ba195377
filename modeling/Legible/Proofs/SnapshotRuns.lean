import Legible.Snapshot
import Mathlib.Data.List.Forall2

/-!
# Runs of a session

A program registers, takes snapshots and builds up objects field by field, in any order. Beside what
the session keeps, a run remembers what was put into each object, and whether trees were registered
by then. Once registration succeeds, no text of the run shows a tree as data, except a tree that was
put into an object before.
-/

namespace Legible.Session

theorem lookup_filter_ne {k l : Subject.Kind} (h : k ≠ l)
    (table : List (Subject.Kind × Converter)) :
    (table.filter fun x => x.1 != l).lookup k = table.lookup k := by
  induction table with
  | nil => rfl
  | cons entry rest ih =>
    obtain ⟨m, c⟩ := entry
    by_cases hm : m = l
    · have hk : (k == m) = false := by simpa [hm] using h
      rw [List.filter_cons_of_neg (by simp [hm]), ih, List.lookup_cons, hk]
    · rw [List.filter_cons_of_pos (by simp [hm]), List.lookup_cons, List.lookup_cons, ih]

theorem lookup_treatAsText (s : Session) (k : Subject.Kind) (c : Converter) :
    (s.treatAsText k c).converters.lookup k = some c := by
  simp [treatAsText]

theorem lookup_treatAsText_of_ne (s : Session) {k l : Subject.Kind} (h : k ≠ l) (c : Converter) :
    (s.treatAsText l c).converters.lookup k = s.converters.lookup k := by
  have hk : (k == l) = false := by simpa using h
  rw [treatAsText, List.lookup_cons, hk]
  exact lookup_filter_ne h s.converters

/-- All that a registration can do. -/
theorem register_cases (s : Session) :
    (s.register.2 = .ok () ∧ s.snapshotTaken = false ∧
      s.register.1 = s.markInitialized.treatAsText .expr exprConverter) ∨
    ∃ fault, s.register.2 = .error fault ∧ s.register.1.converters = s.converters ∧
      s.register.1.snapshotTaken = s.snapshotTaken := by
  unfold register
  split
  · exact .inr ⟨_, rfl, rfl, rfl⟩
  · dsimp only
    split
    · exact .inr ⟨_, rfl, rfl, rfl⟩
    · rename_i hopen
      refine .inl ⟨rfl, ?_, rfl⟩
      cases hs : s.snapshotTaken with
      | false => rfl
      | true => simp [ensureNoSnapshot, markInitialized, hs] at hopen

/-! ## Operations and what they answer -/

structure Entry where
  name : String
  subject : Subject
  /-- Trees were registered when it was put there. -/
  registered : Bool

namespace Entry

def put (entry : Entry) : List Entry → List Entry
  | [] => [entry]
  | other :: rest => if other.name = entry.name then entry :: rest else other :: put entry rest

end Entry

structure Record where
  snapshot : Snapshot := {}
  entries : List Entry := []

/-- What a program can do; `object` counts the objects of the run, in the order they came about. -/
inductive Operation where
  | register
  | treatAsText (kind : Subject.Kind) (converter : Converter)
  | render (e : Expr)
  | toSnapshot (x : Subject)
  | newObject
  | field (object : Nat) (name : String) (x : Subject)
  | toJson (object : Nat)

inductive Answer where
  | none
  | registration (result : Except Error Unit)
  | rendered (result : Except Error String)
  /-- The snapshot of a value. -/
  | single (x : Subject) (result : Except Error String)
  /-- The snapshot of an object with these entries. -/
  | object (entries : List Entry) (text : String)

/-- A session with its objects. An object with one more field is a new one, so that the old one can
still be used. -/
structure Run where
  session : Session := {}
  registered : Bool := false
  records : List Record := []

namespace Run

def step (r : Run) : Operation → Run × Answer
  | .register =>
    let (session, result) := r.session.register
    ({ r with session := session, registered := r.registered || result.isOk }, .registration result)
  | .treatAsText kind converter =>
    ({ r with session := r.session.treatAsText kind converter }, .none)
  | .render e => (r, .rendered (Legible.render {} e))
  | .toSnapshot x =>
    let (session, result) := r.session.toSnapshot x
    ({ r with session := session }, .single x result)
  | .newObject => ({ r with records := r.records ++ [{}] }, .none)
  | .field object name x =>
    match r.records[object]? with
    | some record =>
      match record.snapshot.field r.session name x with
      | .ok snapshot =>
        let entries := Entry.put ⟨name, x, r.registered⟩ record.entries
        ({ r with records := r.records ++ [⟨snapshot, entries⟩] }, .none)
      | .error _ => (r, .none)
    | none => (r, .none)
  | .toJson object =>
    match r.records[object]? with
    | some record =>
      let (session, text) := record.snapshot.toJson r.session
      ({ r with session := session }, .object record.entries text)
    | none => (r, .none)

def answers (r : Run) : List Operation → List Answer
  | [] => []
  | op :: rest => (r.step op).2 :: (r.step op).1.answers rest

theorem step_field_cases (r : Run) (object : Nat) (name : String) (x : Subject) :
    r.step (.field object name x) = (r, .none) ∨
      ∃ record ∈ r.records, ∃ snapshot, record.snapshot.field r.session name x = .ok snapshot ∧
        r.step (.field object name x) =
          ({ r with records := r.records ++
              [⟨snapshot, Entry.put ⟨name, x, r.registered⟩ record.entries⟩] }, .none) := by
  rw [step]
  split
  · rename_i record hrecord
    split
    · rename_i snapshot hfield
      exact .inr ⟨record, List.mem_of_getElem? hrecord, snapshot, hfield, rfl⟩
    · exact .inl rfl
  · exact .inl rfl

theorem step_toJson_cases (r : Run) (object : Nat) :
    r.step (.toJson object) = (r, .none) ∨
      ∃ record ∈ r.records, r.step (.toJson object) =
        ({ r with session := r.session.markSnapshot },
          .object record.entries (Json.object record.snapshot.fields).indented) := by
  rw [step]
  split
  · rename_i record hrecord
    exact .inr ⟨record, List.mem_of_getElem? hrecord, rfl⟩
  · exact .inl rfl

end Run

def Operation.LeavesTrees (op : Operation) : Prop := ∀ c, op ≠ .treatAsText .expr c

/-- How the entry is shown: a tree as its text if trees were registered by then. -/
def Entry.ShownAs (entry : Entry) (field : String × Json) : Prop :=
  field.1 = entry.name ∧
    ∀ e, entry.subject = .expr e →
      if entry.registered then ∃ text, render {} e = .ok text ∧ field.2 = .string text
      else field.2 = e.encode

/-- A snapshot shows the trees given to it as their texts, but for those put there too early. -/
def Answer.ShowsTrees : Answer → Prop
  | .single x (.ok text) => ∀ e, x = .expr e → render {} e = .ok text
  | .object entries text =>
    ∃ fields, text = (Json.object fields).indented ∧ List.Forall₂ Entry.ShownAs entries fields
  | _ => True

/-! ## What a step keeps -/

theorem Entry.forall₂_put {entry : Entry} {j : Json} (h : entry.ShownAs (entry.name, j))
    {entries : List Entry} {fields : List (String × Json)}
    (hall : List.Forall₂ Entry.ShownAs entries fields) :
    List.Forall₂ Entry.ShownAs (entry.put entries) (Json.setField entry.name j fields) := by
  induction hall with
  | nil => exact .cons h .nil
  | @cons other field entries fields hother hrest ih =>
    obtain ⟨name, value⟩ := field
    have hname : name = other.name := hother.1
    rw [put, Json.setField, hname]
    split
    · exact .cons h hrest
    · exact .cons (hname ▸ hother) ih

namespace Run

structure Sound (r : Run) : Prop where
  converter : r.session.converters.lookup .expr =
    if r.registered then some exprConverter else none
  records : ∀ record ∈ r.records, List.Forall₂ Entry.ShownAs record.entries record.snapshot.fields

theorem sound_empty : Sound {} where
  converter := rfl
  records := List.forall_mem_nil _

variable {r : Run}

theorem Sound.convert (h : r.Sound) (e : Expr) :
    r.session.convert (.expr e) = if r.registered then some (render {} e) else none := by
  change (r.session.converters.lookup .expr).map _ = _
  rw [h.converter]
  cases r.registered <;> rfl

theorem Sound.shownAs_field (h : r.Sound) {record : Record} (hrecord : record ∈ r.records)
    {name : String} {x : Subject} {snapshot : Snapshot}
    (hfield : record.snapshot.field r.session name x = .ok snapshot) :
    List.Forall₂ Entry.ShownAs (Entry.put ⟨name, x, r.registered⟩ record.entries)
      snapshot.fields := by
  unfold Snapshot.field at hfield
  split at hfield
  · cases hfield
  · rename_i text hconvert
    cases hfield
    refine Entry.forall₂_put ⟨rfl, ?_⟩ (h.records record hrecord)
    rintro e rfl
    rw [h.convert] at hconvert
    cases hr : r.registered with
    | false => simp [hr] at hconvert
    | true => exact ⟨text, by simpa [hr] using hconvert, rfl⟩
  · rename_i hconvert
    cases hfield
    refine Entry.forall₂_put ⟨rfl, ?_⟩ (h.records record hrecord)
    rintro e rfl
    rw [h.convert] at hconvert
    cases hr : r.registered with
    | false => rfl
    | true => simp [hr] at hconvert

theorem Sound.concat (h : r.Sound) {record : Record}
    (hrecord : List.Forall₂ Entry.ShownAs record.entries record.snapshot.fields) :
    Sound { r with records := r.records ++ [record] } where
  converter := h.converter
  records := by
    intro other hother
    rcases List.mem_append.mp hother with hother | hother
    · exact h.records other hother
    · rw [List.mem_singleton.mp hother]
      exact hrecord

theorem Sound.step (h : r.Sound) {op : Operation} (hop : op.LeavesTrees) : (r.step op).1.Sound := by
  cases op with
  | register =>
    refine ⟨?_, h.records⟩
    change r.session.register.1.converters.lookup .expr =
      if r.registered || r.session.register.2.isOk then _ else _
    rcases r.session.register_cases with ⟨hok, -, hsession⟩ | ⟨fault, herror, hsession, -⟩
    · rw [hok, hsession, lookup_treatAsText, Except.isOk, Except.toBool, Bool.or_true]
      rfl
    · rw [herror, hsession, h.converter, Except.isOk, Except.toBool, Bool.or_false]
  | treatAsText kind c =>
    have hkind : Subject.Kind.expr ≠ kind := by
      rintro rfl
      exact hop c rfl
    exact ⟨(lookup_treatAsText_of_ne r.session hkind c).trans h.converter, h.records⟩
  | render e => exact h
  | toSnapshot x => exact ⟨h.converter, h.records⟩
  | newObject => exact h.concat .nil
  | field object name x =>
    rcases r.step_field_cases object name x with hs | ⟨record, hrecord, snapshot, hfield, hs⟩
    · rwa [hs]
    · rw [hs]
      exact h.concat (h.shownAs_field hrecord hfield)
  | toJson object =>
    rcases r.step_toJson_cases object with hs | ⟨record, -, hs⟩
    · rwa [hs]
    · rw [hs]
      exact ⟨h.converter, h.records⟩

theorem registered_step (h : r.registered = true) (op : Operation) :
    (r.step op).1.registered = true := by
  cases op with
  | register => exact Bool.or_eq_true_iff.mpr (.inl h)
  | field object name x =>
    rcases r.step_field_cases object name x with hs | ⟨_, -, _, -, hs⟩ <;> rwa [hs]
  | toJson object => rcases r.step_toJson_cases object with hs | ⟨_, -, hs⟩ <;> rwa [hs]
  | _ => exact h

theorem registered_of_registration {op : Operation} (h : (r.step op).2 = .registration (.ok ())) :
    (r.step op).1.registered = true := by
  cases op with
  | register =>
    have hok : r.session.register.2 = .ok () := by simpa [Run.step] using h
    change (r.registered || r.session.register.2.isOk) = true
    rw [hok]
    exact Bool.or_true _
  | field object name x =>
    rcases r.step_field_cases object name x with hs | ⟨_, -, _, -, hs⟩ <;> rw [hs] at h <;> cases h
  | toJson object =>
    rcases r.step_toJson_cases object with hs | ⟨_, -, hs⟩ <;> rw [hs] at h <;> cases h
  | _ => cases h

/-! ## Too late to register -/

def Closed (r : Run) : Prop := r.session.snapshotTaken = true ∧ r.registered = false

theorem Closed.step (h : r.Closed) (op : Operation) : (r.step op).1.Closed := by
  obtain ⟨htaken, hunregistered⟩ := h
  cases op with
  | register =>
    rcases r.session.register_cases with ⟨-, hopen, -⟩ | ⟨fault, herror, -, hsession⟩
    · rw [htaken] at hopen
      cases hopen
    · refine ⟨hsession.trans htaken, ?_⟩
      change (r.registered || r.session.register.2.isOk) = false
      rw [herror, hunregistered]
      rfl
  | toSnapshot x => exact ⟨rfl, hunregistered⟩
  | field object name x =>
    rcases r.step_field_cases object name x with hs | ⟨_, -, _, -, hs⟩ <;> rw [hs] <;>
      exact ⟨htaken, hunregistered⟩
  | toJson object =>
    rcases r.step_toJson_cases object with hs | ⟨_, -, hs⟩
    · rw [hs]
      exact ⟨htaken, hunregistered⟩
    · rw [hs]
      exact ⟨rfl, hunregistered⟩
  | _ => exact ⟨htaken, hunregistered⟩

theorem Closed.no_registration (h : r.Closed) (ops : List Operation) :
    .registration (.ok ()) ∉ r.answers ops := by
  induction ops generalizing r with
  | nil => exact List.not_mem_nil
  | cons op rest ih =>
    intro hmem
    rcases List.mem_cons.mp hmem with hhead | htail
    · have hregistered := registered_of_registration hhead.symm
      rw [(h.step op).2] at hregistered
      cases hregistered
    · exact ih (h.step op) htail

/-- A step shows trees as it should, or it takes a snapshot too early for any registration. -/
theorem Sound.shows_or_closes (h : r.Sound) (op : Operation) :
    (r.step op).2.ShowsTrees ∨ (r.step op).1.Closed := by
  cases op with
  | toSnapshot x =>
    cases hr : r.registered with
    | false => exact .inr ⟨rfl, hr⟩
    | true =>
      left
      change (Answer.single x (r.session.toSnapshot x).2).ShowsTrees
      cases hresult : (r.session.toSnapshot x).2 with
      | error fault => trivial
      | ok text =>
        rintro e rfl
        have hconvert := h.convert e
        rw [hr, if_pos rfl] at hconvert
        change ((r.session.convert (.expr e)).getD _) = .ok text at hresult
        rwa [hconvert, Option.getD_some] at hresult
  | toJson object =>
    left
    rcases r.step_toJson_cases object with hs | ⟨record, hrecord, hs⟩
    · rw [hs]
      trivial
    · rw [hs]
      exact ⟨_, rfl, h.records record hrecord⟩
  | field object name x =>
    left
    rcases r.step_field_cases object name x with hs | ⟨_, -, _, -, hs⟩ <;> rw [hs] <;> trivial
  | _ => exact .inl trivial

theorem Sound.answers_show (h : r.Sound) {ops : List Operation} (hops : ∀ op ∈ ops, op.LeavesTrees)
    (hr : r.registered = true ∨ .registration (.ok ()) ∈ r.answers ops) :
    ∀ a ∈ r.answers ops, a.ShowsTrees := by
  induction ops generalizing r with
  | nil => exact List.forall_mem_nil _
  | cons op rest ih =>
    obtain ⟨hop, hrest⟩ := List.forall_mem_cons.mp hops
    have hnext : (r.step op).1.registered = true ∨
        .registration (.ok ()) ∈ (r.step op).1.answers rest := by
      rcases hr with hr | hr
      · exact .inl (registered_step hr op)
      · rcases List.mem_cons.mp hr with hhead | htail
        · exact .inl (registered_of_registration hhead.symm)
        · exact .inr htail
    refine List.forall_mem_cons.mpr ⟨?_, ih (h.step hop) hrest hnext⟩
    rcases h.shows_or_closes op with hshows | hclosed
    · exact hshows
    · rcases hnext with hregistered | hok
      · rw [hclosed.2] at hregistered
        cases hregistered
      · exact (hclosed.no_registration rest hok).elim

end Run

theorem snapshots_show_registered_trees (ops : List Operation) (hops : ∀ op ∈ ops, op.LeavesTrees)
    (hok : .registration (.ok ()) ∈ Run.answers {} ops) :
    ∀ a ∈ Run.answers {} ops, a.ShowsTrees :=
  Run.sound_empty.answers_show hops (.inr hok)

/-- An object begun before the registration and finished after it. -/
theorem snapshots_show_registered_trees_late :
    let five : Expr := .constant (.integer 5) .int none
    let ops : List Operation := [.newObject, .treatAsText .label fun _ => .ok "label",
      .field 0 "first" (.label "a"), .register, .field 1 "second" (.expr five), .toJson 2,
      .toSnapshot (.expr five), .register]
    (∀ op ∈ ops, op.LeavesTrees) ∧ .registration (.ok ()) ∈ Run.answers {} ops ∧
      .single (.expr five) (.ok "5") ∈ Run.answers {} ops ∧
      ∀ a ∈ Run.answers {} ops, a.ShowsTrees := by
  intro five ops
  have hops : ∀ op ∈ ops, op.LeavesTrees := by
    intro op hop c hc
    subst hc
    simp [ops] at hop
  have hok : .registration (.ok ()) ∈ Run.answers {} ops :=
    .tail _ (.tail _ (.tail _ (.head _)))
  exact ⟨hops, hok, .tail _ (.tail _ (.tail _ (.tail _ (.tail _ (.tail _ (.head _)))))),
    snapshots_show_registered_trees ops hops hok⟩

/-- Registration comes between two fields with the same tree. -/
theorem early_tree_stays_data :
    let five : Expr := .constant (.integer 5) .int none
    Run.answers {} [.newObject, .field 0 "early" (.expr five), .register,
        .field 1 "late" (.expr five), .toJson 2] =
      [.none, .none, .registration (.ok ()), .none,
        .object [⟨"early", .expr five, false⟩, ⟨"late", .expr five, true⟩]
          ("\x7b\n  \"early\": \x7b\n    \"kind\": \"constant\",\n    \"value\": \x7b\n      " ++
            "\"integer\": 5\n    \x7d,\n    \"type\": \"int\"\n  \x7d,\n  \"late\": \"5\"\n\x7d")] := by
  rfl

end Legible.Session
