import Legible.Proofs.Grammar.Reader

/-!
# No phrase stands for two terms

The reader gives back the term of every phrase. What has to be seen first is that a phrase without an
arrow of its own is never taken for a lambda: a phrase begins with an atom or a pair of parentheses,
and what follows that is no arrow.
-/

namespace Legible.Grammar

/-! ## Closing brackets -/

/-- No bracket is closed before one is opened, be it inside a quoted text. -/
def Opens (s : List Char) : Prop := ∀ a b, s = a ++ ')' :: b → ∃ c ∈ a, isOpener c = true

namespace Opens

theorem append {s r : List Char} (hs : Opens s) (hr : Opens r) : Opens (s ++ r) := by
  intro a b h
  rcases List.append_eq_append_iff.mp h with ⟨m, rfl, hr'⟩ | ⟨m, rfl, hm⟩
  · obtain ⟨c, hc, ho⟩ := hr m b hr'
    exact ⟨c, List.mem_append_right _ hc, ho⟩
  · cases m with
    | nil =>
      obtain ⟨c, hc, -⟩ := hr [] b hm.symm
      cases hc
    | cons d m =>
      obtain ⟨rfl, -⟩ := List.cons.inj hm
      exact hs a m rfl

theorem of_opener {c : Char} (hc : isOpener c = true) (s : List Char) : Opens (c :: s) := by
  intro a b h
  cases a with
  | nil =>
    obtain ⟨rfl, -⟩ := List.cons.inj h
    cases hc
  | cons d a =>
    obtain ⟨rfl, -⟩ := List.cons.inj h
    exact ⟨c, List.mem_cons_self, hc⟩

theorem of_not_mem {s : List Char} (h : ')' ∉ s) : Opens s := by
  rintro a b rfl
  exact (h (by simp)).elim

theorem of_inert {s : List Char} (h : Inert s) : Opens s :=
  of_not_mem fun hc => h ')' hc (by decide)

theorem cons {c : Char} (hc : c ≠ ')') {s : List Char} (hs : Opens s) : Opens (c :: s) :=
  append (s := [c]) (of_not_mem (by simpa using hc.symm)) hs

theorem of_word {w : List Char} (h : ∀ c ∈ w, isWordChar c = true) : Opens w :=
  of_not_mem fun hc => absurd (h ')' hc) (by decide)

theorem method {n : String} (hn : isName n = true) {g : List Char} {types : List Ty}
    (hg : TypeArguments g types) (s : List Char) : Opens ('.' :: (n.toList ++ (g ++ '(' :: s))) := by
  have hargs := (of_inert hg.inert).append (of_opener (c := '(') (by decide) s)
  exact cons (by decide) ((of_word (isWordChar_of_isName hn)).append hargs)

theorem commas {α : Type} {P : List Char → α → Prop} (hP : ∀ s a, P s a → Opens s) {s : List Char}
    {as : List α} (h : Commas P s as) : Opens s := by
  induction h with
  | one h => exact hP _ _ h
  | more h _ ih => exact (hP _ _ h).append (cons (by decide) (cons (by decide) ih))

end Opens

/-- A word or a quoted text. -/
theorem Atom.shape {s : List Char} {t : Term} (h : Atom s t) :
    (s ≠ [] ∧ ∀ c ∈ s, isWordChar c = true) ∨ ∃ c cs, s = c :: cs ∧ c ∈ ['\'', '"'] := by
  cases h with
  | name hn =>
    obtain ⟨c, cs, hcs, -⟩ := exists_cons_of_isName hn
    exact .inl ⟨by rw [hcs]; exact List.cons_ne_nil c cs, isWordChar_of_isName hn⟩
  | null => exact .inl ⟨by decide, by decide⟩
  | bool b => cases b <;> exact .inl ⟨by decide, by decide⟩
  | number hs hx hn =>
    obtain ⟨hne, hw, -⟩ := number_word hs hx
    exact .inl ⟨fun h => hne (List.append_eq_nil_iff.mp h).1, hw⟩
  | char _ => exact .inr ⟨_, _, rfl, by decide⟩
  | string _ => exact .inr ⟨_, _, rfl, by decide⟩

theorem Atom.opens {s : List Char} {t : Term} (h : Atom s t) : Opens s := by
  rcases h.shape with ⟨-, hw⟩ | ⟨c, cs, rfl, hc⟩
  · exact .of_word hw
  · refine .of_opener ?_ cs
    simp only [List.mem_cons, List.not_mem_nil, or_false] at hc
    rcases hc with rfl | rfl <;> decide

theorem Head.opens {p : List Char} {ps : List (Option Ty × String)} (h : Head p ps) : Opens p := by
  cases h with
  | bare hn => exact .of_word (isWordChar_of_isName hn)
  | none => exact .of_opener (by decide) _
  | list _ => exact .of_opener (by decide) _

theorem symbol_opens (op : BinaryOp) : Opens op.symbol.toList := by
  cases op <;> exact .of_not_mem (by decide)

theorem Derives.opens {l : Level} {s : List Char} {t : Term} (h : Derives l s t) : Opens s := by
  induction h using Derives.induct with
  | atom h => exact h.opens
  | group _ _ => exact .of_opener (by decide) _
  | member _ hn ih => exact ih.append (.cons (by decide) (.of_word (isWordChar_of_isName hn)))
  | index _ _ ih ha =>
    have ha := Opens.commas (fun _ _ ⟨_, h⟩ => h) ha
    exact ih.append (.cons (by decide) (ha.append (.of_not_mem (by decide))))
  | call _ hn hg ih => exact ih.append (.method hn hg _)
  | callWith _ hn hg _ ih _ => exact ih.append (.method hn hg _)
  | negative h =>
    cases h with
    | number hs hx _ _ => exact .cons (by decide) (.of_word (number_word hs hx).2.1)
  | lift _ ih => exact ih
  | left hop _ _ ih ihr =>
    exact ih.append (.cons (by decide) ((symbol_opens _).append (.cons (by decide) ihr)))
  | coalesce _ _ ih ihr =>
    exact ih.append (.cons (by decide) (.cons (by decide) (.cons (by decide)
      (.cons (by decide) ihr))))
  | conditional _ _ _ ih iha ihb =>
    have htail := iha.append (.cons (c := ' ') (by decide) (.cons (c := ':') (by decide)
      (.cons (c := ' ') (by decide) ihb)))
    exact ih.append (.cons (by decide) (.cons (by decide) (.cons (by decide) htail)))
  | lambda hp _ ih =>
    exact hp.opens.append (.cons (by decide) (.cons (by decide) (.cons (by decide)
      (.cons (by decide) ih))))

theorem Opens.ne_close {s : List Char} (h : Opens s) (hne : s ≠ []) (r s' : List Char) :
    s ++ r ≠ ')' :: s' := by
  intro heq
  cases s with
  | nil => exact hne rfl
  | cons c cs =>
    obtain ⟨rfl, -⟩ := List.cons.inj heq
    obtain ⟨d, hd, -⟩ := h [] cs rfl
    cases hd

/-! ## How a phrase begins -/

inductive Front : List Char → Prop where
  | word {w : List Char} (hne : w ≠ []) (h : ∀ c ∈ w, isWordChar c = true) : Front w
  | mark {c : Char} {cs : List Char} (hc : c ∈ ['\'', '"', '-']) : Front (c :: cs)
  | group {s : List Char} (h : Opens s) : Front ('(' :: (s ++ [')']))

inductive Tail : List Char → Prop where
  | nil : Tail []
  | mark {c : Char} {cs : List Char} (hc : c ∈ ['.', '[']) : Tail (c :: cs)
  | operator {cs : List Char} (op : BinaryOp) : Tail (' ' :: (op.symbol.toList ++ ' ' :: cs))
  | question {cs : List Char} : Tail (' ' :: '?' :: ' ' :: cs)

theorem Tail.append {a b : List Char} (ha : Tail a) (hb : Tail b) : Tail (a ++ b) := by
  cases ha with
  | nil => exact hb
  | mark hc => exact .mark hc
  | operator op =>
    rw [List.cons_append, List.append_assoc]
    exact .operator op
  | question => exact .question

def Ends (r : List Char) : Prop :=
  (∀ c ∈ r.head?, isWordChar c = false) ∧ ∀ rest, r ≠ ' ' :: '=' :: '>' :: ' ' :: rest

theorem Bound.ends {l : Level} {r : List Char} (h : Bound l r) : Ends r :=
  ⟨fun c hc => (h.word c hc).1, h.arrow⟩

theorem Tail.ends {a r : List Char} (ha : Tail a) (hr : Ends r) : Ends (a ++ r) := by
  cases ha with
  | nil => exact hr
  | mark hc =>
    simp only [List.mem_cons, List.not_mem_nil, or_false] at hc
    refine ⟨?_, ?_⟩
    · rintro _ ⟨⟩
      rcases hc with rfl | rfl <;> decide
    · rintro rest heq
      obtain ⟨rfl, -⟩ := List.cons.inj heq
      exact absurd hc (by decide)
  | operator op =>
    refine ⟨?_, ?_⟩
    · rintro _ ⟨⟩
      decide
    · intro rest
      cases op <;> simp [BinaryOp.symbol]
  | question =>
    refine ⟨?_, ?_⟩
    · rintro _ ⟨⟩
      decide
    · intro rest heq
      cases heq

theorem Derives.front {l : Level} {s : List Char} {t : Term} (h : Derives l s t) (hl : l ≠ .expr) :
    ∃ a b, s = a ++ b ∧ Front a ∧ Tail b := by
  -- every other production only adds to the end of a tighter phrase
  have hmore {s r : List Char} (hs : ∃ a b, s = a ++ b ∧ Front a ∧ Tail b) (hr : Tail r) :
      ∃ a b, s ++ r = a ++ b ∧ Front a ∧ Tail b := by
    obtain ⟨a, b, rfl, ha, hb⟩ := hs
    exact ⟨a, b ++ r, List.append_assoc a b r, ha, hb.append hr⟩
  induction h using Derives.induct with
  | atom h =>
    refine ⟨_, [], (List.append_nil _).symm, ?_, .nil⟩
    rcases h.shape with ⟨hne, hw⟩ | ⟨c, cs, rfl, hc⟩
    · exact .word hne hw
    · exact .mark (List.mem_append_left ['-'] hc)
  | group h _ => exact ⟨_, [], (List.append_nil _).symm, .group h.opens, .nil⟩
  | member _ _ ih => exact hmore (ih (by decide)) (.mark (by decide))
  | index _ _ ih _ => exact hmore (ih (by decide)) (.mark (by decide))
  | call _ _ _ ih => exact hmore (ih (by decide)) (.mark (by decide))
  | callWith _ _ _ _ ih _ => exact hmore (ih (by decide)) (.mark (by decide))
  | negative h =>
    cases h
    exact ⟨_, [], (List.append_nil _).symm, .mark (by decide), .nil⟩
  | lift _ ih =>
    rename_i l _ _ _
    exact ih (by cases l <;> decide)
  | left hop _ _ ih _ => exact hmore (ih hl) (.operator _)
  | coalesce _ _ ih _ => exact hmore (ih (by decide)) (.operator .coalesce)
  | conditional _ _ _ ih _ _ => exact hmore (ih (by decide)) .question
  | lambda _ _ _ => exact (hl rfl).elim

theorem ne_word_append {c : Char} (hc : isWordChar c = false ∧ c ≠ ' ') {w : List Char}
    (hw : ∀ c ∈ w, isWordChar c = true) (cs rest : List Char) : c :: cs ≠ w ++ ' ' :: rest := by
  intro heq
  cases w with
  | nil => exact hc.2 (List.cons.inj heq).1
  | cons d w =>
    obtain ⟨rfl, -⟩ := List.cons.inj heq
    rw [hw c List.mem_cons_self] at hc
    exact absurd hc.1 (by decide)

theorem Front.ne_head {a r p : List Char} (ha : Front a) (hr : Ends r) (hp : HeadText p)
    (rest : List Char) : a ++ r ≠ p ++ ' ' :: '=' :: '>' :: ' ' :: rest := by
  cases ha with
  | word hne hw =>
    cases hp with
    | word hw' =>
      intro heq
      have hdrop := (run_append hw hr.1).2
      have hdrop' := (run_append (r := ' ' :: '=' :: '>' :: ' ' :: rest) hw' (by
        rintro _ ⟨⟩
        decide)).2
      rw [heq, hdrop'] at hdrop
      exact hr.2 rest hdrop.symm
    | list _ =>
      intro heq
      cases a with
      | nil => exact hne rfl
      | cons c cs =>
        obtain ⟨rfl, -⟩ := List.cons.inj heq
        exact absurd (hw '(' List.mem_cons_self) (by decide)
  | mark hc =>
    simp only [List.mem_cons, List.not_mem_nil, or_false] at hc
    cases hp with
    | word hw =>
      refine ne_word_append ?_ hw _ _
      rcases hc with rfl | rfl | rfl <;> decide
    | list _ =>
      intro heq
      obtain ⟨rfl, -⟩ := List.cons.inj heq
      exact absurd hc (by decide)
  | group hs =>
    cases hp with
    | word hw => exact ne_word_append (by decide) hw _ _
    | list hinert =>
      rename_i s s'
      intro heq
      simp only [List.cons_append, List.append_assoc, List.nil_append] at heq
      -- the first closing bracket is the same one in both
      rcases List.append_eq_append_iff.mp (List.cons.inj heq).2 with ⟨m, hs', hm⟩ | ⟨m, hs', hm⟩
      · cases m with
        | nil => exact hr.2 rest (List.cons.inj hm).2
        | cons c m =>
          obtain ⟨rfl, -⟩ := List.cons.inj hm
          exact hinert ')' (by rw [hs']; simp) (by decide)
      · cases m with
        | nil => exact hr.2 rest (List.cons.inj hm).2.symm
        | cons c m =>
          obtain ⟨rfl, -⟩ := List.cons.inj hm
          obtain ⟨c, hc, ho⟩ := hs s' m hs'
          have hc := hinert c hc
          simp only [List.mem_cons, List.not_mem_nil, or_false, not_or] at hc
          simp [isOpener, hc] at ho

/-- No phrase below the top is taken for a lambda. -/
theorem Derives.head?_eq_none {l : Level} {s r : List Char} {t : Term} (h : Derives l s t)
    (hl : l ≠ .expr) (hr : Ends r) : head? (s ++ r) = none := by
  rw [Option.eq_none_iff_forall_ne_some]
  rintro ⟨ps, rest⟩ hhead
  obtain ⟨p, hp, heq⟩ := headText_of_head? hhead
  obtain ⟨a, b, rfl, ha, hb⟩ := h.front hl
  rw [List.append_assoc] at heq
  exact ha.ne_head (hb.ends hr) hp rest heq

/-! ## Reading a phrase back -/

theorem Derives.ne_nil {l : Level} {s : List Char} {t : Term} (h : Derives l s t) : s ≠ [] := by
  induction h using Derives.induct with
  | atom h =>
    rcases h.shape with ⟨hne, -⟩ | ⟨c, cs, rfl, -⟩
    · exact hne
    · exact List.cons_ne_nil c cs
  | negative h =>
    cases h
    exact List.cons_ne_nil _ _
  | lift _ ih => exact ih
  | group _ _ => exact List.cons_ne_nil _ _
  | member _ _ ih => simp
  | index _ _ _ _ => simp
  | call _ _ _ _ => simp
  | callWith _ _ _ _ _ _ => simp
  | left _ _ _ _ _ => simp
  | coalesce _ _ _ _ => simp
  | conditional _ _ _ _ _ _ => simp
  | lambda _ _ _ => simp

theorem length_lt_append {s : List Char} (h : s ≠ []) (r : List Char) :
    r.length < (s ++ r).length := by
  have hpos := List.length_pos_iff.mpr h
  rw [List.length_append]
  omega

theorem length_lt_append_cons (s : List Char) (c : Char) (r : List Char) :
    r.length < (s ++ c :: r).length := by
  rw [List.length_append, List.length_cons]
  omega

theorem Atom.read_append {s : List Char} {t : Term} (h : Atom s t) {r : List Char}
    (hr : Bound .primary r) : read .primary (s ++ r) = access t r := by
  have hne : s ≠ [] := Derives.ne_nil (.atom h)
  refine read_atom ?_ (h.atom?_append fun c hc => (hr.word c hc).1) (length_lt_append hne r)
  intro s' heq
  rcases h.shape with ⟨-, hw⟩ | ⟨c, cs, rfl, hc⟩
  · cases s with
    | nil => exact hne rfl
    | cons c cs =>
      obtain ⟨rfl, -⟩ := List.cons.inj heq
      exact absurd (hw '(' List.mem_cons_self) (by decide)
  · obtain ⟨rfl, -⟩ := List.cons.inj heq
    exact absurd hc (by decide)

theorem Commas.readAll_append {P : List Char → Term → Prop} {a : List Char} {ts : List Term}
    (h : Commas P a ts) (hne : ∀ s t, P s t → s ≠ [])
    (hP : ∀ s t, P s t → ∀ r, Bound .expr r → read .expr (s ++ r) = some (t, r))
    {c : Char} (hc : c ∈ [')', ']']) (r : List Char) :
    readAll (a ++ c :: r) = some (ts, c :: r) := by
  induction h with
  | one h =>
    refine readAll_one (hP _ _ h _ (.close .expr (List.mem_append_left [','] hc) r))
      (length_lt_append (hne _ _ h) _) ?_
    intro r' heq
    obtain ⟨rfl, -⟩ := List.cons.inj heq
    exact absurd hc (by decide)
  | more h _ ih =>
    simp only [List.append_assoc, List.cons_append]
    exact readAll_more (hP _ _ h _ (.close .expr (by decide) _)) (length_lt_append (hne _ _ h) _) ih

theorem Derives.read_append {l : Level} {s : List Char} {t : Term} (h : Derives l s t)
    {r : List Char} (hr : Bound l r) : read l (s ++ r) = resume l t r := by
  induction h using Derives.induct generalizing r with
  | atom h =>
    rw [resume]
    exact h.read_append hr
  | group _ ih =>
    have hs := ih (.close .expr (c := ')') (by decide) r)
    rw [Bound.resume_self (.close .expr (by decide) r) (by decide)] at hs
    simp only [List.cons_append, List.append_assoc, List.nil_append, resume]
    exact read_group hs (length_lt_append_cons _ _ r)
  | member _ hn ih =>
    simp only [List.append_assoc, List.cons_append]
    rw [ih (.dot _), resume, resume]
    exact access_member hn hr.word
  | index _ _ ih ha =>
    have hargs := ha.readAll_append (fun _ _ h => h.fst.ne_nil) (fun _ _ h r hr => by
      rw [h.snd hr, hr.resume_self (by decide)]) (c := ']') (by decide) r
    simp only [List.append_assoc, List.cons_append, List.nil_append]
    rw [ih (.bracket _), resume, resume]
    exact access_index hargs (length_lt_append_cons _ _ r)
  | call _ hn hg ih =>
    simp only [List.append_assoc, List.cons_append, List.nil_append]
    rw [ih (.dot _), resume, resume]
    exact access_call hn hg
  | callWith _ hn hg hd ih ha =>
    have hargs := ha.readAll_append (fun _ _ h => h.fst.ne_nil) (fun _ _ h r hr => by
      rw [h.snd hr, hr.resume_self (by decide)]) (c := ')') (by decide) r
    have hopens := Opens.commas (fun _ _ h => h.opens) hd
    have hne := hd.ne_nil fun _ _ h => h.ne_nil
    simp only [List.append_assoc, List.cons_append, List.nil_append]
    rw [ih (.dot _), resume, resume]
    exact access_callWith hn hg (hopens.ne_close hne _) hargs (length_lt_append_cons _ _ r)
  | negative h =>
    have hstop := hr.resume_next (l := .signed) (by decide)
    have hatom := h.atom?_append fun c hc => (hr.word c hc).1
    have hlt := length_lt_append (Derives.negative h).ne_nil r
    refine read_next (by decide) (by decide) ((read_atom ?_ hatom hlt).trans ?_) hlt
    · cases h
      intro s' heq
      cases heq
    · rw [← hstop, Level.next, resume]
  | lift h ih =>
    rename_i l _ _
    by_cases hp : l = .primary
    · subst hp
      exact ih hr
    have hs := (ih hr.next).trans (hr.resume_next hp _)
    by_cases he : l = .expr
    · subst he
      rw [read_expr (h.head?_eq_none (by decide) hr.ends), hr.resume_self (by decide)]
      exact hs
    · exact read_next he hp hs (length_lt_append h.ne_nil r)
  | left hop _ hu ih ihr =>
    rename_i l op s' r' t u _
    have hp : l ≠ .primary := by
      rintro rfl
      cases hop
    have hright := (ihr hr.next).trans (hr.resume_next hp _)
    simp only [List.append_assoc, List.cons_append]
    rw [ih (.symbol (.inr hop) _), resume_operator hop hright (length_lt_append hu.ne_nil r)]
  | coalesce ht _ ih ihr =>
    rename_i _ r' t u _
    have hlooser : (Level.ofOperator .coalesce).rank < Level.sum.rank := by decide
    have hleft := ih (.symbol (.inl hlooser) (r' ++ r))
    have hleft := hleft.trans (Bound.resume_sum_coalesce t (r' ++ r))
    have hright := (ihr hr).trans (hr.resume_self (by decide) u)
    simp only [List.append_assoc, List.cons_append]
    rw [hr.resume_self (by decide), ← resume_coalesce hright]
    exact read_next (l := .coalesce) (by decide) (by decide) hleft (length_lt_append ht.ne_nil _)
  | conditional ht _ _ ih iha ihb =>
    rename_i _ a b t u v _ _
    have htest := (ih (.question _)).trans
      (Bound.resume_orElse_question t (a ++ ' ' :: ':' :: ' ' :: (b ++ r)))
    have htrue := (iha (.colon (b ++ r))).trans ((Bound.colon _).resume_self (by decide) u)
    have hfalse := (ihb hr).trans (hr.resume_self (by decide) v)
    simp only [List.append_assoc, List.cons_append]
    have hlt : (b ++ r).length < (a ++ ' ' :: ':' :: ' ' :: (b ++ r)).length := by
      simp only [List.length_append, List.length_cons]
      omega
    rw [hr.resume_self (by decide), ← resume_conditional htrue hlt hfalse]
    exact read_next (l := .cond) (by decide) (by decide) htest (length_lt_append ht.ne_nil _)
  | lambda hp _ ih =>
    have hbody := (ih hr).trans (hr.resume_self (by decide) _)
    simp only [List.append_assoc, List.cons_append]
    rw [hr.resume_self (by decide)]
    refine read_lambda (hp.head?_append _) ?_ hbody
    simp only [List.length_append, List.length_cons]
    omega

theorem Parses.unique {text : String} {t u : Term} (ht : Parses text t) (hu : Parses text u) :
    t = u := by
  have hread := (Derives.read_append ht (.nil .expr)).symm.trans (Derives.read_append hu (.nil .expr))
  rw [(Bound.nil .expr).resume_self (by decide), (Bound.nil .expr).resume_self (by decide)] at hread
  cases hread
  rfl

end Legible.Grammar
