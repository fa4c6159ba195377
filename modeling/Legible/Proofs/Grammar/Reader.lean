import Legible.Proofs.Grammar.Heads

/-!
# Reading phrases

A reader that never goes back: the next few characters decide what to do. It reads every phrase of
the grammar as the term that the phrase stands for, so no phrase stands for two.
-/

namespace Legible.Grammar

def operator? : List Char → Option (BinaryOp × List Char)
  | ' ' :: s => do
    let op ← BinaryOp.all.find? fun op => op.symbol.toList == s.takeWhile (· != ' ')
    some (op, (s.dropWhile (· != ' ')).drop 1)
  | _ => none

theorem operator?_symbol (op : BinaryOp) (r : List Char) :
    operator? (' ' :: (op.symbol.toList ++ ' ' :: r)) = some (op, r) := by
  cases op <;> rfl

def Level.room (l : Level) : Nat := Level.primary.rank - l.rank

theorem Level.room_next {l : Level} (h : l ≠ .primary) : l.next.room < l.room := by
  cases l <;> first | exact (h rfl).elim | decide

/-- What was read, when that made the text shorter. -/
def ahead {α : Type} (s : List Char) (x : Option (α × List Char)) :
    Option (α × {r : List Char // r.length < s.length}) :=
  x.bind fun p => if h : p.2.length < s.length then some (p.1, ⟨p.2, h⟩) else none

theorem ahead_some {α : Type} {s r : List Char} (a : α) (h : r.length < s.length) :
    ahead s (some (a, r)) = some (a, ⟨r, h⟩) := dif_pos h

theorem eq_some_of_ahead {α : Type} {s : List Char} {x : Option (α × List Char)} {a : α}
    {r : {r : List Char // r.length < s.length}} (h : ahead s x = some (a, r)) :
    x = some (a, r.val) := by
  obtain ⟨p, hp, hr⟩ := Option.bind_eq_some_iff.mp h
  split at hr
  · cases hr
    exact hp
  · cases hr

def before {α : Type} (cs : List Char) (x : Option (α × List Char)) : Option (α × List Char) :=
  x.bind fun p => (cs.isPrefixOf? p.2).map fun r => (p.1, r)

theorem before_some {α : Type} (cs r : List Char) (a : α) :
    before cs (some (a, cs ++ r)) = some (a, r) := by
  have h : cs.isPrefixOf? (cs ++ r) = some r := List.isPrefixOf?_eq_some_iff_append_eq.mpr rfl
  simp only [before, Option.bind_some, h, Option.map_some]

theorem before_eq_none {α : Type} {cs s : List Char} (a : α) (h : ∀ r, s ≠ cs ++ r) :
    before cs (some (a, s)) = none := by
  have hnone : cs.isPrefixOf? s = none := by
    rw [Option.eq_none_iff_forall_ne_some]
    intro r hr
    exact h r (List.isPrefixOf?_eq_some_iff_append_eq.mp hr).symm
  simp only [before, Option.bind_some, hnone, Option.map_none]

def after (cs s : List Char) : Option (Unit × {r : List Char // r.length < s.length}) :=
  ahead s (before cs (some ((), s)))

theorem after_append (cs : List Char) (h : cs ≠ []) (r : List Char) :
    after cs (cs ++ r) = some ((), ⟨r, by
      have := List.length_pos_iff.mpr h
      rw [List.length_append]
      omega⟩) := by
  rw [after, before_some, ahead_some]

theorem after_eq_none {cs s : List Char} (h : ∀ r, s ≠ cs ++ r) : after cs s = none := by
  rw [after, before_eq_none _ h]
  rfl

mutual

def read (l : Level) (s : List Char) : Option (Term × List Char) :=
  if _he : l = .expr then
    match ahead s (head? s) with
    | some (ps, ⟨r, _⟩) => do
      let (t, r) ← read .expr r
      some (.lambda ps t, r)
    | none => read .cond s
  else if _hp : l = .primary then
    match after ['('] s with
    | some (_, ⟨r, _⟩) => do
      let (t, ⟨r, _⟩) ← ahead r (before [')'] (read .expr r))
      access t r
    | none => do
      let (t, ⟨r, _⟩) ← ahead s (atom? s)
      access t r
  else do
    let (t, ⟨r, _⟩) ← ahead s (read l.next s)
    resume l t r
termination_by (s.length, l.room + 2)
decreasing_by
  · exact .left _ _ ‹_›
  · subst _he
    exact .right _ (by decide)
  · exact .left _ _ ‹_›
  · exact .left _ _ (by omega)
  · exact .left _ _ ‹_›
  · exact .right _ (Nat.add_lt_add_right (Level.room_next _hp) 2)
  · exact .left _ _ ‹_›

def resume (l : Level) (t : Term) (s : List Char) : Option (Term × List Char) :=
  match l with
  | .primary => access t s
  | .cond =>
    match after [' ', '?', ' '] s with
    | some (_, ⟨r, _⟩) => do
      let (u, ⟨r, _⟩) ← ahead r (before [' ', ':', ' '] (read .cond r))
      let (v, r) ← read .cond r
      some (.conditional t u v, r)
    | none => some (t, s)
  | .coalesce =>
    match ahead s (operator? s) with
    | some (op, ⟨r, _⟩) =>
      if op = .coalesce then do
        let (u, r) ← read .coalesce r
        some (.binary .coalesce t u, r)
      else some (t, s)
    | none => some (t, s)
  | l =>
    match ahead s (operator? s) with
    | some (op, ⟨r, _⟩) =>
      if op ∈ l.operators then do
        let (u, ⟨r, _⟩) ← ahead r (read l.next r)
        resume l (.binary op t u) r
      else some (t, s)
    | none => some (t, s)
termination_by (s.length, 1)
decreasing_by
  · exact .right _ (by decide)
  all_goals exact .left _ _ (by omega)

def access (t : Term) (s : List Char) : Option (Term × List Char) :=
  match s with
  | '.' :: s => do
    let name := String.ofList (s.takeWhile isWordChar)
    let (types, ⟨r, _⟩) ← ahead ('.' :: s) (typeArguments? (s.dropWhile isWordChar))
    match after ['(', ')'] r with
    | some (_, ⟨r, _⟩) => access (.call t name types []) r
    | none =>
      match after ['('] r with
      | some (_, ⟨r, _⟩) => do
        let (ts, ⟨r, _⟩) ← ahead r (before [')'] (readAll r))
        access (.call t name types ts) r
      | none => access (.member t name) r
  | '[' :: s => do
    let (ts, ⟨r, _⟩) ← ahead s (before [']'] (readAll s))
    access (.index t ts) r
  | s => some (t, s)
termination_by (s.length, 0)
decreasing_by all_goals exact .left _ _ (by simp only [List.length_cons] at *; omega)

def readAll (s : List Char) : Option (List Term × List Char) := do
  let (t, ⟨r, _⟩) ← ahead s (read .expr s)
  match after [',', ' '] r with
  | some (_, ⟨r, _⟩) => do
    let (ts, r) ← readAll r
    some (t :: ts, r)
  | none => some ([t], r)
termination_by (s.length, Level.expr.room + 3)
decreasing_by
  · exact .right _ (by decide)
  · exact .left _ _ (by omega)

end

/-! ## Single steps -/

section Steps

variable {l : Level} {s r r' g : List Char} {t u v : Term} {ts : List Term} {n : String}
  {types : List Ty} {ps : List (Option Ty × String)} {op : BinaryOp}

theorem read_lambda (h : head? s = some (ps, r)) (hlt : r.length < s.length)
    (hr : read .expr r = some (t, r')) : read .expr s = some (.lambda ps t, r') := by
  rw [read, dif_pos rfl, h, ahead_some ps hlt]
  simp only [hr]
  rfl

theorem read_expr (h : head? s = none) : read .expr s = read .cond s := by
  rw [read, dif_pos rfl, h]
  rfl

theorem read_group (h : read .expr s = some (t, ')' :: r)) (hlt : r.length < s.length) :
    read .primary ('(' :: s) = access t r := by
  have hopen := after_append ['('] (by decide) s
  have hclose : before [')'] (some (t, ')' :: r)) = some (t, r) := before_some [')'] r t
  rw [read, dif_neg (by decide), dif_pos rfl]
  simp only [List.cons_append, List.nil_append] at hopen
  simp only [hopen, h, hclose, ahead_some t hlt]
  rfl

theorem read_atom (hs : ∀ s', s ≠ '(' :: s') (h : atom? s = some (t, r))
    (hlt : r.length < s.length) : read .primary s = access t r := by
  have hopen : after ['('] s = none := after_eq_none hs
  rw [read, dif_neg (by decide), dif_pos rfl, hopen, h, ahead_some t hlt]
  rfl

theorem read_next (he : l ≠ .expr) (hp : l ≠ .primary) (h : read l.next s = some (t, r))
    (hlt : r.length < s.length) : read l s = resume l t r := by
  rw [read, dif_neg he, dif_neg hp, h, ahead_some t hlt]
  rfl

theorem ahead_operator (op : BinaryOp) (s : List Char) :
    ahead (' ' :: (op.symbol.toList ++ ' ' :: s)) (operator? (' ' :: (op.symbol.toList ++ ' ' :: s))) =
      some (op, ⟨s, by simp only [List.length_cons, List.length_append]; omega⟩) := by
  rw [operator?_symbol, ahead_some]

theorem resume_operator (hop : op ∈ l.operators) (h : read l.next s = some (u, r))
    (hlt : r.length < s.length) :
    resume l t (' ' :: (op.symbol.toList ++ ' ' :: s)) = resume l (.binary op t u) r := by
  have hl : l ≠ .primary ∧ l ≠ .cond ∧ l ≠ .coalesce := by
    refine ⟨?_, ?_, ?_⟩ <;> rintro rfl <;> cases hop
  rw [resume]
  · simp only [ahead_operator, if_pos hop, h, ahead_some u hlt]
    rfl
  · exact hl.1
  · exact hl.2.1
  · exact hl.2.2

theorem resume_coalesce (h : read .coalesce s = some (u, r)) :
    resume .coalesce t (' ' :: '?' :: '?' :: ' ' :: s) = some (.binary .coalesce t u, r) := by
  have hop := ahead_operator .coalesce s
  change ahead (' ' :: '?' :: '?' :: ' ' :: s) (operator? (' ' :: '?' :: '?' :: ' ' :: s)) = _ at hop
  rw [resume]
  simp only [hop, if_true, h]
  rfl

theorem resume_conditional (ha : read .cond s = some (u, ' ' :: ':' :: ' ' :: r))
    (hlt : r.length < s.length) (hb : read .cond r = some (v, r')) :
    resume .cond t (' ' :: '?' :: ' ' :: s) = some (.conditional t u v, r') := by
  have hq := after_append [' ', '?', ' '] (by decide) s
  have hc : before [' ', ':', ' '] (some (u, ' ' :: ':' :: ' ' :: r)) = some (u, r) :=
    before_some [' ', ':', ' '] r u
  simp only [List.cons_append, List.nil_append] at hq
  rw [resume]
  simp only [Option.bind_eq_bind, Option.bind_some, hq, ha, hc, ahead_some u hlt, hb]

theorem access_index (h : readAll s = some (ts, ']' :: r)) (hlt : r.length < s.length) :
    access t ('[' :: s) = access (.index t ts) r := by
  have hclose : before [']'] (some (ts, ']' :: r)) = some (ts, r) := before_some [']'] r ts
  rw [access, h, hclose, ahead_some ts hlt]
  rfl

theorem access_member (hn : isName n = true)
    (hr : ∀ c ∈ r.head?, isWordChar c = false ∧ c ≠ '(' ∧ c ≠ '<') :
    access t ('.' :: (n.toList ++ r)) = access (.member t n) r := by
  have hrun := run_append (isWordChar_of_isName hn) fun c hc => (hr c hc).1
  have htypes : typeArguments? r = some ([], r) := by
    unfold typeArguments?
    split
    · exact absurd rfl (hr '<' rfl).2.2
    · rfl
  have hlt : r.length < ('.' :: (n.toList ++ r)).length := by
    simp only [List.length_cons, List.length_append]
    omega
  have hbare (cs : List Char) : after ('(' :: cs) r = none := by
    refine after_eq_none ?_
    rintro r' rfl
    exact (hr '(' rfl).2.1 rfl
  rw [access, hrun.1, hrun.2, String.ofList_toList, htypes, ahead_some [] hlt]
  simp only [Option.bind_eq_bind, Option.bind_some, hbare]

/-- The name of a method and its type arguments, up to the bracket behind them. -/
theorem method_run (hn : isName n = true) (hg : TypeArguments g types) :
    (n.toList ++ (g ++ '(' :: s)).takeWhile isWordChar = n.toList ∧
      (n.toList ++ (g ++ '(' :: s)).dropWhile isWordChar = g ++ '(' :: s := by
  refine run_append (isWordChar_of_isName hn) ?_
  intro c hc
  cases hg with
  | none =>
    cases hc
    decide
  | list _ =>
    cases hc
    decide

/-- The types of a method are read in front of its arguments. -/
theorem ahead_typeArguments (hg : TypeArguments g types) (n : String) :
    ahead ('.' :: (n.toList ++ (g ++ '(' :: s))) (typeArguments? (g ++ '(' :: s)) =
      some (types, ⟨'(' :: s, by simp only [List.length_cons, List.length_append]; omega⟩) := by
  rw [hg.typeArguments?_append, ahead_some]

theorem access_call (hn : isName n = true) (hg : TypeArguments g types) :
    access t ('.' :: (n.toList ++ (g ++ '(' :: ')' :: r))) = access (.call t n types []) r := by
  obtain ⟨htake, hdrop⟩ := method_run (s := ')' :: r) hn hg
  have hopen := after_append ['(', ')'] (by decide) r
  simp only [List.cons_append, List.nil_append] at hopen
  rw [access, htake, hdrop, String.ofList_toList, ahead_typeArguments hg]
  simp only [Option.bind_eq_bind, Option.bind_some, hopen]

theorem access_callWith (hn : isName n = true) (hg : TypeArguments g types)
    (hs : ∀ s', s ≠ ')' :: s') (h : readAll s = some (ts, ')' :: r)) (hlt : r.length < s.length) :
    access t ('.' :: (n.toList ++ (g ++ '(' :: s))) = access (.call t n types ts) r := by
  obtain ⟨htake, hdrop⟩ := method_run (s := s) hn hg
  have hempty : after ['(', ')'] ('(' :: s) = none :=
    after_eq_none fun r' heq => hs r' (List.cons.inj heq).2
  have hopen := after_append ['('] (by decide) s
  have hclose : before [')'] (some (ts, ')' :: r)) = some (ts, r) := before_some [')'] r ts
  simp only [List.cons_append, List.nil_append] at hopen
  rw [access, htake, hdrop, String.ofList_toList, ahead_typeArguments hg]
  simp only [Option.bind_eq_bind, Option.bind_some, hempty, hopen, h, hclose, ahead_some ts hlt]

theorem readAll_one (h : read .expr s = some (t, r)) (hlt : r.length < s.length)
    (hr : ∀ r', r ≠ ',' :: ' ' :: r') : readAll s = some ([t], r) := by
  have hc : after [',', ' '] r = none := after_eq_none hr
  rw [readAll, h, ahead_some t hlt]
  simp only [Option.bind_eq_bind, Option.bind_some, hc]

theorem readAll_more (h : read .expr s = some (t, ',' :: ' ' :: r))
    (hlt : (',' :: ' ' :: r).length < s.length) (hr : readAll r = some (ts, r')) :
    readAll s = some (t :: ts, r') := by
  have hc := after_append [',', ' '] (by decide) r
  simp only [List.cons_append, List.nil_append] at hc
  rw [readAll, h, ahead_some t hlt]
  simp only [Option.bind_eq_bind, Option.bind_some, hc, hr]

end Steps

/-! ## Where a phrase ends -/

/-- What may stand behind a phrase of the level, so that the phrase does not go on. -/
structure Bound (l : Level) (r : List Char) : Prop where
  word : ∀ c ∈ r.head?, isWordChar c = false ∧ c ≠ '(' ∧ c ≠ '<'
  access : l ≠ .primary → ∀ c ∈ r.head?, c ≠ '.' ∧ c ≠ '['
  operator : ∀ op rest, operator? r = some (op, rest) →
    (Level.ofOperator op).rank < l.rank ∨ op ∈ l.operators
  test : l.rank ≤ Level.cond.rank → ∀ rest, r ≠ ' ' :: '?' :: ' ' :: rest
  arrow : ∀ rest, r ≠ ' ' :: '=' :: '>' :: ' ' :: rest

namespace Bound

variable {l l' : Level} {r : List Char}

theorem nil (l : Level) : Bound l [] := ⟨nofun, nofun, nofun, nofun, nofun⟩

/-- A closing bracket or a comma ends every phrase. -/
theorem close (l : Level) {c : Char} (hc : c ∈ [')', ']', ',']) (r : List Char) :
    Bound l (c :: r) := by
  simp only [List.mem_cons, List.not_mem_nil, or_false] at hc
  have hword : isWordChar c = false ∧ c ≠ '(' ∧ c ≠ '<' ∧ c ≠ '.' ∧ c ≠ '[' ∧ c ≠ ' ' := by
    rcases hc with rfl | rfl | rfl <;> decide
  obtain ⟨hw, hopen, hangle, hdot, hindex, hblank⟩ := hword
  refine ⟨?_, ?_, ?_, ?_, ?_⟩
  · rintro _ ⟨⟩
    exact ⟨hw, hopen, hangle⟩
  · rintro _ _ ⟨⟩
    exact ⟨hdot, hindex⟩
  · intro op rest h
    unfold operator? at h
    split at h
    · rename_i heq
      exact (hblank (List.cons.inj heq).1).elim
    · cases h
  · rintro _ rest heq
    exact hblank (List.cons.inj heq).1
  · rintro rest heq
    exact hblank (List.cons.inj heq).1

theorem dot (r : List Char) : Bound .primary ('.' :: r) := by
  refine ⟨?_, fun h => (h rfl).elim, nofun, fun h => absurd h (by decide), nofun⟩
  rintro _ ⟨⟩
  decide

theorem bracket (r : List Char) : Bound .primary ('[' :: r) := by
  refine ⟨?_, fun h => (h rfl).elim, nofun, fun h => absurd h (by decide), nofun⟩
  rintro _ ⟨⟩
  decide

theorem blank {s : List Char} (hop : ∀ op rest, operator? (' ' :: s) = some (op, rest) →
      (Level.ofOperator op).rank < l.rank ∨ op ∈ l.operators)
    (ht : l.rank ≤ Level.cond.rank → ∀ rest, s ≠ '?' :: ' ' :: rest)
    (ha : ∀ rest, s ≠ '=' :: '>' :: ' ' :: rest) : Bound l (' ' :: s) := by
  refine ⟨?_, ?_, hop, ?_, ?_⟩
  · rintro _ ⟨⟩
    decide
  · rintro _ _ ⟨⟩
    decide
  · intro hl rest heq
    exact ht hl rest (List.cons.inj heq).2
  · intro rest heq
    exact ha rest (List.cons.inj heq).2

theorem symbol {op : BinaryOp} (h : (Level.ofOperator op).rank < l.rank ∨ op ∈ l.operators)
    (r : List Char) : Bound l (' ' :: (op.symbol.toList ++ ' ' :: r)) := by
  refine blank ?_ ?_ ?_
  · intro op' rest hop
    rw [operator?_symbol] at hop
    cases hop
    exact h
  · intro _ rest
    cases op <;> simp [BinaryOp.symbol]
  · intro rest
    cases op <;> simp [BinaryOp.symbol]

theorem question (r : List Char) : Bound .orElse (' ' :: '?' :: ' ' :: r) :=
  blank nofun (fun h => absurd h (by decide)) nofun

theorem colon (r : List Char) : Bound .cond (' ' :: ':' :: ' ' :: r) :=
  blank nofun nofun nofun

/-- Every operator that is left to a looser level is loose. -/
theorem rank_le (h : Bound l r) {op : BinaryOp} {rest : List Char}
    (hop : operator? r = some (op, rest)) : (Level.ofOperator op).rank ≤ l.rank := by
  rcases h.operator op rest hop with hlt | hmem
  · exact Nat.le_of_lt hlt
  · rw [Level.ofOperator_eq hmem]

theorem next (h : Bound l r) : Bound l.next r := by
  by_cases hl : l = .primary
  · rw [hl] at h ⊢
    exact h
  have hrank := Level.rank_lt_rank_next hl
  refine ⟨h.word, fun _ => h.access hl, ?_, ?_, h.arrow⟩
  · intro op rest hop
    have hle := h.rank_le hop
    left
    omega
  · intro hle
    apply h.test
    omega

/-- A level does not go on when nothing of its own follows. -/
theorem resume_stop (ha : l = .primary → ∀ c ∈ r.head?, c ≠ '.' ∧ c ≠ '[')
    (ho : ∀ op rest, operator? r = some (op, rest) → Level.ofOperator op ≠ l)
    (ht : l = .cond → ∀ rest, r ≠ ' ' :: '?' :: ' ' :: rest) (t : Term) :
    resume l t r = some (t, r) := by
  by_cases hp : l = .primary
  · have ha := ha hp
    rw [hp, resume, Grammar.access]
    · rintro s rfl
      exact (ha '.' rfl).1 rfl
    · rintro s rfl
      exact (ha '[' rfl).2 rfl
  by_cases hc : l = .cond
  · have hq : after [' ', '?', ' '] r = none := after_eq_none (ht hc)
    rw [hc, resume, hq]
  by_cases hl : l = .coalesce
  · rw [hl, resume]
    split
    · rename_i op rest hlt hop
      have hne : op ≠ .coalesce := by
        rintro rfl
        exact ho _ rest (eq_some_of_ahead hop) hl.symm
      rw [if_neg hne]
    · rfl
  · rw [resume]
    · split
      · rename_i op rest hlt hop
        rw [if_neg fun hmem => ho op rest (eq_some_of_ahead hop) (Level.ofOperator_eq hmem)]
      · rfl
    · exact hp
    · exact hc
    · exact hl

theorem resume_sum_coalesce (t : Term) (r : List Char) :
    resume .sum t (' ' :: '?' :: '?' :: ' ' :: r) = some (t, ' ' :: '?' :: '?' :: ' ' :: r) := by
  refine resume_stop (fun h => absurd h (by decide)) ?_ (fun h => absurd h (by decide)) t
  intro op rest hop
  rw [show operator? (' ' :: '?' :: '?' :: ' ' :: r) = _ from operator?_symbol .coalesce r] at hop
  cases hop
  decide

theorem resume_orElse_question (t : Term) (r : List Char) :
    resume .orElse t (' ' :: '?' :: ' ' :: r) = some (t, ' ' :: '?' :: ' ' :: r) := by
  refine resume_stop (fun h => absurd h (by decide)) ?_ (fun h => absurd h (by decide)) t
  intro op rest hop
  cases hop

/-- The next tighter level does not go on. -/
theorem resume_next (h : Bound l r) (hl : l ≠ .primary) (t : Term) :
    resume l.next t r = some (t, r) := by
  have hrank := Level.rank_lt_rank_next hl
  refine resume_stop (fun _ => h.access hl) ?_ ?_ t
  · intro op rest hop heq
    have hle := h.rank_le hop
    rw [heq] at hle
    omega
  · intro hc
    apply h.test
    rw [hc] at hrank
    exact Nat.le_of_lt hrank

/-- Nor does a level that takes no operand on its left again. -/
theorem resume_self (h : Bound l r) (hl : l ∈ [.expr, .cond, .coalesce]) (t : Term) :
    resume l t r = some (t, r) := by
  have hspec : l ≠ .primary ∧ l.operators = [] := by
    simp only [List.mem_cons, List.not_mem_nil, or_false] at hl
    rcases hl with rfl | rfl | rfl <;> decide
  refine resume_stop (fun hp => (hspec.1 hp).elim) ?_ ?_ t
  · intro op rest hop heq
    rcases h.operator op rest hop with hlt | hmem
    · rw [heq] at hlt
      omega
    · rw [hspec.2] at hmem
      cases hmem
  · intro hc
    apply h.test
    rw [hc]

end Bound

end Legible.Grammar
