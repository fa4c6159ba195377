import Legible.Proofs.Grammar.Words

/-!
# Reading type arguments and parameters

A list of types is cut at the commas outside of angle brackets. A text in parentheses is taken for
parameters only if an arrow follows, and nothing in it opens another bracket or a quoted text.
-/

namespace Legible.Grammar

def deepen (c : Char) (depth : Nat) : Nat :=
  if c = '<' then depth + 1 else if c = '>' then depth - 1 else depth

def pieces : Nat → List Char → List Char → List (List Char)
  | _, read, [] => [read]
  | 0, read, ',' :: ' ' :: rest => read :: pieces 0 [] rest
  | depth, read, c :: rest => pieces (deepen c depth) (read ++ [c]) rest

theorem pieces_cons {depth : Nat} {c : Char} (h : depth = 0 → c ≠ ',') (read rest : List Char) :
    pieces depth read (c :: rest) = pieces (deepen c depth) (read ++ [c]) rest := by
  rw [pieces]
  intro rest' hdepth hc _
  exact h hdepth hc

/-- The text is not cut from the given depth on. -/
def Whole (k : Nat) (s : List Char) : Prop :=
  ∀ depth, k ≤ depth → ∀ read r, pieces depth read (s ++ r) = pieces depth (read ++ s) r

theorem Whole.append {k : Nat} {a b : List Char} (ha : Whole k a) (hb : Whole k b) :
    Whole k (a ++ b) := by
  intro depth hd read r
  rw [List.append_assoc, ha depth hd, hb depth hd, List.append_assoc]

theorem Whole.of_plain {s : List Char} (h : ∀ c ∈ s, c ∉ ['<', '>', ',']) : Whole 0 s := by
  intro depth _ read r
  induction s generalizing read with
  | nil => rw [List.append_nil, List.nil_append]
  | cons c cs ih =>
    obtain ⟨hc, hcs⟩ := List.forall_mem_cons.mp h
    simp only [List.mem_cons, List.not_mem_nil, or_false, not_or] at hc
    rw [List.cons_append, pieces_cons fun _ => hc.2.2, deepen, if_neg hc.1, if_neg hc.2.1, ih hcs,
      List.append_assoc, List.singleton_append]

theorem whole_spelling : Ty.Spelling (Whole 0) (Whole 1) where
  append := Whole.append
  mark := Whole.of_plain (by decide)
  single ha depth _ := ha depth (Nat.zero_le depth)
  comma {a b} ha hb := by
    intro depth hd read r
    have hne : depth ≠ 0 := Nat.pos_iff_ne_zero.mp hd
    have hcomma : deepen ',' depth = depth := rfl
    have hblank : deepen ' ' depth = depth := rfl
    rw [List.append_assoc, ha depth hd, List.cons_append, List.cons_append,
      pieces_cons fun h => (hne h).elim, hcomma, pieces_cons fun h => (hne h).elim, hblank,
      hb depth hd]
    simp
  angle {a} ha := by
    intro depth _ read r
    have hopen : deepen '<' depth = depth + 1 := rfl
    have hclose : deepen '>' (depth + 1) = depth := rfl
    rw [List.cons_append, List.append_assoc, pieces_cons fun _ => by decide, hopen,
      ha (depth + 1) (Nat.le_add_left 1 depth), List.singleton_append,
      pieces_cons fun _ => by decide, hclose]
    simp

theorem Spells.wellFormed {s : List Char} {t : Ty} (h : Spells s t) : t.WellFormed :=
  Ty.wellFormed_of_parse? h.2

theorem Spells.parse? {s : List Char} {t : Ty} (h : Spells s t) :
    Ty.parse? (String.ofList s) = some t := by
  rw [h.1, String.ofList_toList]
  exact h.2

theorem Spells.whole {s : List Char} {t : Ty} (h : Spells s t) : Whole 0 s := by
  rw [h.1]
  refine h.wellFormed.text_of_spelling whole_spelling fun s hs => Whole.of_plain ?_
  intro c hc
  exact not_mem_marks (by decide) (hs c hc)

def isOpener (c : Char) : Bool := c == '(' || c == '"' || c == '\''

/-- Nothing in the text opens or closes a bracket or a quoted text. -/
def Inert (s : List Char) : Prop := ∀ c ∈ s, c ∉ [')', '(', '"', '\'']

instance (s : List Char) : Decidable (Inert s) :=
  inferInstanceAs (Decidable (∀ c ∈ s, c ∉ [')', '(', '"', '\'']))

theorem Inert.append {a b : List Char} (ha : Inert a) (hb : Inert b) : Inert (a ++ b) := by
  intro c hc
  rcases List.mem_append.mp hc with hc | hc
  · exact ha c hc
  · exact hb c hc

theorem Inert.cons {c : Char} (hc : c ∉ [')', '(', '"', '\'']) {s : List Char} (hs : Inert s) :
    Inert (c :: s) := List.forall_mem_cons.mpr ⟨hc, hs⟩

theorem inert_spelling : Ty.Spelling Inert Inert where
  append := Inert.append
  mark := by decide
  single := id
  comma ha hb := ha.append (Inert.cons (by decide) (Inert.cons (by decide) hb))
  angle ha := Inert.cons (by decide) (ha.append (by decide))

theorem Spells.inert {s : List Char} {t : Ty} (h : Spells s t) : Inert s := by
  rw [h.1]
  refine h.wellFormed.text_of_spelling inert_spelling fun s hs c hc => ?_
  exact not_mem_marks (by decide) (hs c hc)

theorem inert_of_isName {n : String} (h : isName n = true) : Inert n.toList := fun c hc =>
  not_mem_marks (by decide) (isWordChar_of_isName h c hc)

theorem whole_of_isName {n : String} (h : isName n = true) : Whole 0 n.toList :=
  Whole.of_plain fun c hc => not_mem_marks (by decide) (isWordChar_of_isName h c hc)

/-! ## Lists -/

theorem Commas.pieces {α : Type} {P : List Char → α → Prop} {read : List Char → Option α}
    (hP : ∀ s a, P s a → Whole 0 s ∧ read s = some a) {s : List Char} {as : List α}
    (h : Commas P s as) : (pieces 0 [] s).mapM read = some as := by
  induction h with
  | one h =>
    obtain ⟨hw, hr⟩ := hP _ _ h
    have hp := hw 0 (Nat.le_refl 0) [] []
    rw [List.append_nil] at hp
    rw [hp, Grammar.pieces]
    simp [hr]
  | more h _ ih =>
    obtain ⟨hw, hr⟩ := hP _ _ h
    rw [hw 0 (Nat.le_refl 0), Grammar.pieces]
    simp [hr, ih]

theorem Commas.inert {α : Type} {P : List Char → α → Prop} (hP : ∀ s a, P s a → Inert s)
    {s : List Char} {as : List α} (h : Commas P s as) : Inert s := by
  induction h with
  | one h => exact hP _ _ h
  | more h _ ih => exact (hP _ _ h).append (Inert.cons (by decide) (Inert.cons (by decide) ih))

theorem Commas.ne_nil {α : Type} {P : List Char → α → Prop} (hP : ∀ s a, P s a → s ≠ [])
    {s : List Char} {as : List α} (h : Commas P s as) : s ≠ [] := by
  cases h with
  | one h => exact hP _ _ h
  | more _ _ => simp

def type? (s : List Char) : Option Ty := Ty.parse? (String.ofList s)

def typeArguments? : List Char → Option (List Ty × List Char)
  | '<' :: s => do
    let types ← (pieces 0 [] (s.takeWhile (· != '(')).dropLast).mapM type?
    some (types, s.dropWhile (· != '('))
  | s => some ([], s)

theorem TypeArguments.inert {g : List Char} {types : List Ty} (h : TypeArguments g types) :
    Inert g := by
  cases h with
  | none => exact nofun
  | list h =>
    have hs := h.inert fun _ _ h => h.inert
    exact Inert.cons (by decide) (hs.append (by decide))

theorem TypeArguments.typeArguments?_append {g : List Char} {types : List Ty}
    (h : TypeArguments g types) (r : List Char) :
    typeArguments? (g ++ '(' :: r) = some (types, '(' :: r) := by
  cases h with
  | none => rfl
  | list h =>
    rename_i s
    have hs : Inert (s ++ ['>']) := (h.inert fun _ _ h => h.inert).append (by decide)
    have hrun := run_append (p := (· != '(')) (r := '(' :: r) (w := s ++ ['>'])
      (fun c hc => by have := hs c hc; simp at this; simp [this]) (by simp)
    have htypes : (Grammar.pieces 0 [] s).mapM type? = some types :=
      h.pieces fun s t h => ⟨h.whole, h.parse?⟩
    rw [List.cons_append, typeArguments?, hrun.1, hrun.2, List.dropLast_concat, htypes]
    rfl

def parameter? (piece : List Char) : Option (Option Ty × String) :=
  let name := String.ofList (piece.reverse.takeWhile (· != ' ')).reverse
  match piece.reverse.dropWhile (· != ' ') with
  | [] => some (none, name)
  | _ :: type => (type? type.reverse).map fun t => (some t, name)

theorem Parameter.spec {s : List Char} {p : Option Ty × String} (h : Parameter s p) :
    Whole 0 s ∧ Inert s ∧ s ≠ [] ∧ parameter? s = some p := by
  have hblank : ∀ {n : String}, isName n = true → ∀ c ∈ n.toList.reverse, (c != ' ') = true := by
    intro n hn c hc
    have hc := isWordChar_of_isName hn c (List.mem_reverse.mp hc)
    have hc : c ∉ [' '] := not_mem_marks (by decide) hc
    simpa using hc
  cases h with
  | bare hn =>
    rename_i n
    have hrun := run_append (r := []) (hblank hn) nofun
    rw [List.append_nil] at hrun
    refine ⟨whole_of_isName hn, inert_of_isName hn, ?_, ?_⟩
    · obtain ⟨c, cs, hcs, -⟩ := exists_cons_of_isName hn
      rw [hcs]
      exact List.cons_ne_nil c cs
    · simp [parameter?, hrun]
  | typed hs hn =>
    rename_i s t n
    have hrun := run_append (r := ' ' :: s.reverse) (hblank hn) (by simp)
    refine ⟨hs.whole.append (Whole.append (a := [' ']) (Whole.of_plain (by decide))
      (whole_of_isName hn)), hs.inert.append (Inert.cons (by decide) (inert_of_isName hn)), by simp,
      ?_⟩
    have htype : type? s = some t := hs.parse?
    simp [parameter?, hrun, htype]

/-! ## Parameters in front of an arrow -/

def parameters? (inside : List Char) : Option (List (Option Ty × String)) :=
  if inside.isEmpty then some [] else (pieces 0 [] inside).mapM parameter?

def head? : List Char → Option (List (Option Ty × String) × List Char)
  | '(' :: s =>
    if (s.takeWhile (· != ')')).any isOpener then none
    else do
      let r ← [' ', '=', '>', ' '].isPrefixOf? ((s.dropWhile (· != ')')).drop 1)
      let ps ← parameters? (s.takeWhile (· != ')'))
      some (ps, r)
  | s => do
    let r ← [' ', '=', '>', ' '].isPrefixOf? (s.dropWhile isWordChar)
    some ([(none, String.ofList (s.takeWhile isWordChar))], r)

inductive HeadText : List Char → Prop where
  | word {w : List Char} (h : ∀ c ∈ w, isWordChar c = true) : HeadText w
  | list {s : List Char} (h : Inert s) : HeadText ('(' :: (s ++ [')']))

theorem headText_of_head? {s r : List Char} {ps : List (Option Ty × String)}
    (h : head? s = some (ps, r)) : ∃ p, HeadText p ∧ s = p ++ ' ' :: '=' :: '>' :: ' ' :: r := by
  unfold head? at h
  split at h
  · rename_i s
    split at h
    · cases h
    · rename_i hopen
      obtain ⟨r', harrow, h⟩ := Option.bind_eq_some_iff.mp h
      obtain ⟨ps', -, h⟩ := Option.bind_eq_some_iff.mp h
      cases h
      have hs := List.takeWhile_append_dropWhile (p := (· != ')')) (l := s)
      refine ⟨'(' :: (s.takeWhile (· != ')') ++ [')']), .list ?_, ?_⟩
      · intro c hc
        have hclose := List.mem_takeWhile_imp hc
        have hopen : isOpener c = false := by
          rw [Bool.not_eq_true, List.any_eq_false] at hopen
          simpa using hopen c hc
        simp only [isOpener, Bool.or_eq_false_iff, beq_eq_false_iff_ne] at hopen
        simpa [and_assoc] using And.intro hclose hopen
      · have harrow := (List.isPrefixOf?_eq_some_iff_append_eq.mp harrow).symm
        cases hd : s.dropWhile (· != ')') with
        | nil =>
          rw [hd] at harrow
          cases harrow
        | cons c cs =>
          have hc := List.head_dropWhile_not (· != ')') (l := s) (by simp [hd])
          have hc : c = ')' := by simpa [hd] using hc
          rw [hd, List.drop_one, List.tail_cons] at harrow
          rw [hd, hc, harrow] at hs
          rw [List.cons_append, List.append_assoc, List.singleton_append]
          exact congrArg ('(' :: ·) hs.symm
  · obtain ⟨r', harrow, h⟩ := Option.bind_eq_some_iff.mp h
    cases h
    refine ⟨s.takeWhile isWordChar, .word fun c hc => List.mem_takeWhile_imp hc, ?_⟩
    have harrow := List.isPrefixOf?_eq_some_iff_append_eq.mp harrow
    exact (List.takeWhile_append_dropWhile.symm).trans (congrArg _ harrow.symm)

theorem Head.head?_append {p : List Char} {ps : List (Option Ty × String)} (h : Head p ps)
    (r : List Char) : head? (p ++ ' ' :: '=' :: '>' :: ' ' :: r) = some (ps, r) := by
  cases h with
  | bare hn =>
    rename_i n
    have hrun := run_append (r := ' ' :: '=' :: '>' :: ' ' :: r) (isWordChar_of_isName hn)
      (by intro c hc; cases hc; decide)
    unfold head?
    split
    · rename_i s heq
      obtain ⟨c, cs, hcs, hc, -⟩ := exists_cons_of_isName hn
      rw [hcs, List.cons_append] at heq
      rw [(List.cons.inj heq).1] at hc
      exact absurd hc (by decide)
    · rw [hrun.1, hrun.2, String.ofList_toList]
      rfl
  | none => rfl
  | list h =>
    rename_i s
    have hinert : Inert s := h.inert fun _ _ hp => hp.spec.2.1
    have hclose : ∀ c ∈ s, (c != ')') = true := by
      intro c hc
      have hc := hinert c hc
      simp only [List.mem_cons, not_or] at hc
      simp [hc.1]
    have hrun := run_append (r := ')' :: ' ' :: '=' :: '>' :: ' ' :: r) hclose (by simp)
    have hopen : s.any isOpener = false := by
      rw [List.any_eq_false]
      intro c hc
      have hc := hinert c hc
      simp only [List.mem_cons, not_or] at hc
      simp [isOpener, hc]
    have hps : parameters? s = some ps := by
      have hne : s ≠ [] := h.ne_nil fun _ _ hp => hp.spec.2.2.1
      rw [parameters?, if_neg (by simpa using hne)]
      exact h.pieces fun _ _ hp => ⟨hp.spec.1, hp.spec.2.2.2⟩
    rw [List.cons_append, List.append_assoc, List.singleton_append]
    simp only [head?, hrun.1, hrun.2, hopen, List.drop_one, List.tail_cons, hps]
    rfl

end Legible.Grammar
