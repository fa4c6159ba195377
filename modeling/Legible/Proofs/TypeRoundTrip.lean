import Legible.Proofs.TypeParsing

/-!
# The text of a type and the type it is read as

Reading and writing are inverse on the well-formed types and on no others. The text is followed mark
by mark: what stands in front of a rest that cannot continue a name takes the reader from one state
to the next, whatever the rest is.
-/

namespace Legible.Ty

def readFrom (stack : List Frame) (state : State) (cs : List Char) : Option Ty :=
  (tokens? cs).bind (run stack state)

theorem parse?_eq_readFrom (s : String) : parse? s = readFrom [] .start s.toList := rfl

/-- A name that ends before this rest ends there. -/
def EndsName (rest : List Char) : Prop := ∀ c cs, rest = c :: cs → isNameChar c = false

theorem endsName_nil : EndsName [] := nofun

theorem endsName_cons {c : Char} (h : isNameChar c = false) (cs : List Char) :
    EndsName (c :: cs) := by
  rintro d ds hd
  cases hd
  exact h

/-! ## One token at a time -/

theorem tokensFrom_of_endsName {rest : List Char} (h : EndsName rest) (read : List Char) :
    tokensFrom read rest = (tokens? rest).bind (closeName read) := by
  unfold tokens?
  cases rest with
  | nil => rfl
  | cons c cs =>
    have hc := h c cs rfl
    rw [tokensFrom, tokensFrom, hc]
    simp only [Bool.false_eq_true, if_false]
    split
    · -- a blank leaves no token, so the empty name before it changes nothing
      cases tokensFrom [] cs <;> rfl
    · cases mark? c with
      | none => rfl
      | some m => cases tokensFrom [] cs <;> rfl

theorem tokensFrom_append {cs : List Char} (h : ∀ c ∈ cs, isNameChar c = true)
    (read rest : List Char) :
    tokensFrom read (cs ++ rest) = tokensFrom (cs.reverse ++ read) rest := by
  induction cs generalizing read with
  | nil => rfl
  | cons c cs ih =>
    obtain ⟨hc, hcs⟩ := List.forall_mem_cons.mp h
    rw [List.cons_append, tokensFrom, if_pos hc, ih hcs, List.reverse_cons, List.append_assoc]
    rfl

theorem tokens?_name {n : String} (h : IsTypeName n) {rest : List Char} (hrest : EndsName rest) :
    tokens? (n.toList ++ rest) = (tokens? rest).map (.name n :: ·) := by
  obtain ⟨hchars, c, cs, hn, hstart⟩ := h
  have hclose : closeName n.toList.reverse = fun ts => some (.name n :: ts) := by
    funext ts
    have hcons : n = String.ofList (c :: cs) := by rw [← hn, String.ofList_toList]
    rw [closeName, List.reverse_reverse, hn]
    simp only [hstart, if_true, ← hcons]
  rw [tokens?, tokensFrom_append hchars, List.append_nil, tokensFrom_of_endsName hrest, hclose]
  cases tokens? rest <;> rfl

theorem readFrom_name {n : String} (h : IsTypeName n) {rest : List Char} (hrest : EndsName rest)
    (stack : List Frame) :
    readFrom stack .start (n.toList ++ rest) = readFrom stack (.name n) rest := by
  unfold readFrom
  rw [tokens?_name h hrest]
  cases tokens? rest <;> rfl

theorem tokens?_mark {c : Char} {m : Token} (hc : isNameChar c = false)
    (hb : Text.isBlank c = false) (hm : mark? c = some m) (rest : List Char) :
    tokens? (c :: rest) = (tokens? rest).map (m :: ·) := by
  rw [tokens?, tokensFrom, hc, hb, hm, tokens?]
  cases tokensFrom [] rest <;> rfl

theorem tokens?_blank {c : Char} (hc : isNameChar c = false) (hb : Text.isBlank c = true)
    (rest : List Char) : tokens? (c :: rest) = tokens? rest := by
  rw [tokens?, tokensFrom, hc, hb, tokens?]
  cases tokensFrom [] rest <;> rfl

theorem readFrom_mark {c : Char} {m : Token} (hc : isNameChar c = false) (hb : Text.isBlank c = false)
    (hm : mark? c = some m) {stack stack' : List Frame} {state state' : State}
    (hstep : step stack state m = some (stack', state')) (rest : List Char) :
    readFrom stack state (c :: rest) = readFrom stack' state' rest := by
  unfold readFrom
  rw [tokens?_mark hc hb hm]
  cases tokens? rest with
  | none => rfl
  | some ts =>
    change run stack state (m :: ts) = run stack' state' ts
    rw [run, hstep]

theorem readFrom_blank {c : Char} (hc : isNameChar c = false) (hb : Text.isBlank c = true)
    (stack : List Frame) (state : State) (rest : List Char) :
    readFrom stack state (c :: rest) = readFrom stack state rest := by
  unfold readFrom
  rw [tokens?_blank hc hb]

theorem readFrom_opening (stack : List Frame) (n : String) (rest : List Char) :
    readFrom stack (.name n) ('<' :: rest) = readFrom (⟨n, []⟩ :: stack) .start rest :=
  readFrom_mark (by decide) (by decide) rfl rfl rest

section Complete

variable {state : State} {t : Ty} (ht : state.type? = some t)
include ht

theorem readFrom_comma (n : String) (before : List Ty) (stack : List Frame) (rest : List Char) :
    readFrom (⟨n, before⟩ :: stack) state (',' :: rest) =
      readFrom (⟨n, before ++ [t]⟩ :: stack) .start rest := by
  refine readFrom_mark (by decide) (by decide) rfl ?_ rest
  simp only [step, ht]

theorem readFrom_closing (n : String) (before : List Ty) (stack : List Frame) (rest : List Char) :
    readFrom (⟨n, before⟩ :: stack) state ('>' :: rest) =
      readFrom stack (.type (ofName n (before ++ [t]))) rest := by
  refine readFrom_mark (by decide) (by decide) rfl ?_ rest
  simp only [step, ht]

theorem readFrom_question (hmark : state.canMark = true) (stack : List Frame) (rest : List Char) :
    readFrom stack state ('?' :: rest) = readFrom stack (.marked t.asNullable) rest := by
  refine readFrom_mark (by decide) (by decide) rfl ?_ rest
  simp only [step, hmark, ht, if_true, Option.map_some]

end Complete

/-! ## Whole types -/

def endState : Ty → State
  | .keyword k => .name k.text
  | .named name [] => .name name
  | .nullable t => .marked (.nullable t)
  | t => .type t

theorem ofName_keyword (k : Keyword) : ofName k.text [] = .keyword k := by
  cases k <;> decide

theorem ofName_func (parameters : List Ty) (result : Ty) :
    ofName "Func" (parameters ++ [result]) = .function parameters result := by
  simp [ofName]

theorem WellFormed.ofName_eq {name : String} {arguments : List Ty}
    (h : (Ty.named name arguments).WellFormed) : ofName name arguments = .named name arguments := by
  cases h with
  | named hn hk hf ha =>
    cases harguments : arguments with
    | nil => simp only [ofName, List.getLast?_nil, hk harguments]
    | cons t ts =>
      have hne : name ≠ "Func" := by
        apply hf
        rw [harguments]
        exact List.cons_ne_nil t ts
      simp only [ofName, List.getLast?_cons, if_neg hne]

theorem WellFormed.type?_endState {t : Ty} (h : t.WellFormed) : t.endState.type? = some t := by
  cases t with
  | keyword k => exact congrArg some (ofName_keyword k)
  | nullable t => rfl
  | named name arguments =>
    cases arguments with
    | nil => exact congrArg some h.ofName_eq
    | cons t ts => rfl
  | function parameters result => rfl

theorem canMark_endState {t : Ty} (h : ∀ u, t ≠ .nullable u) : t.endState.canMark = true := by
  cases t with
  | keyword k => rfl
  | nullable t => exact (h t rfl).elim
  | named name arguments => cases arguments <;> rfl
  | function parameters result => rfl

theorem asNullable_of_ne {t : Ty} (h : ∀ u, t ≠ .nullable u) : t.asNullable = .nullable t := by
  cases t with
  | nullable u => exact (h u rfl).elim
  | _ => rfl

/-- Its text takes the reader from where a type begins to where this type has been read. -/
def Readable (t : Ty) : Prop :=
  ∀ (stack : List Frame) (rest : List Char), EndsName rest →
    readFrom stack .start (t.text.toList ++ rest) = readFrom stack t.endState rest

theorem readFrom_more {ts : List Ty} (hts : ∀ t ∈ ts, t.WellFormed ∧ t.Readable) {state : State}
    {u : Ty} (hu : state.type? = some u) (n : String) (before : List Ty) (stack : List Frame)
    (rest : List Char) :
    readFrom (⟨n, before⟩ :: stack) state
        ((ts.flatMap fun t => ',' :: ' ' :: t.text.toList) ++ '>' :: rest) =
      readFrom stack (.type (ofName n (before ++ u :: ts))) rest := by
  -- the arguments read so far are in the frame, and the latest of them in the state
  induction ts generalizing state u before with
  | nil => exact readFrom_closing hu n before stack rest
  | cons t ts ih =>
    obtain ⟨⟨hwell, hread⟩, htail⟩ := List.forall_mem_cons.mp hts
    have hends : EndsName ((ts.flatMap fun t => ',' :: ' ' :: t.text.toList) ++ '>' :: rest) := by
      cases ts <;> exact endsName_cons (by decide) _
    rw [List.flatMap_cons, List.cons_append, List.cons_append, List.cons_append, List.cons_append,
      List.append_assoc, readFrom_comma hu, readFrom_blank (by decide) (by decide),
      hread _ _ hends, ih htail hwell.type?_endState, List.append_assoc]
    rfl

theorem readFrom_lead {ts : List Ty} (hts : ∀ t ∈ ts, t.WellFormed ∧ t.Readable) {u : Ty}
    (hu : u.WellFormed ∧ u.Readable) (n : String) (before : List Ty) (stack : List Frame)
    (rest : List Char) :
    readFrom (⟨n, before⟩ :: stack) .start
        ((ts.flatMap fun t => t.text.toList ++ [',', ' ']) ++ (u.text.toList ++ '>' :: rest)) =
      readFrom stack (.type (ofName n (before ++ (ts ++ [u])))) rest := by
  induction ts generalizing before with
  | nil =>
    obtain ⟨hwell, hread⟩ := hu
    have hends : EndsName ('>' :: rest) := endsName_cons (by decide) rest
    rw [List.flatMap_nil, List.nil_append, hread _ _ hends, readFrom_closing hwell.type?_endState]
    rfl
  | cons t ts ih =>
    obtain ⟨⟨hwell, hread⟩, htail⟩ := List.forall_mem_cons.mp hts
    rw [List.flatMap_cons, List.append_assoc, List.append_assoc, List.cons_append, List.cons_append,
      List.nil_append, hread _ _ (endsName_cons (by decide) _), readFrom_comma hwell.type?_endState,
      readFrom_blank (by decide) (by decide), ih htail, List.append_assoc]
    rfl

theorem isTypeName_keyword (k : Keyword) : IsTypeName k.text := by
  cases k <;> exact ⟨by decide, _, _, rfl, by decide⟩

theorem isTypeName_func : IsTypeName "Func" := ⟨by decide, _, _, rfl, by decide⟩

theorem WellFormed.readable {t : Ty} (h : t.WellFormed) : t.Readable := by
  intro stack rest hrest
  induction h generalizing stack rest with
  | keyword k => exact readFrom_name (isTypeName_keyword k) hrest stack
  | @nullable t h ht ih =>
    have hends : EndsName ('?' :: rest) := endsName_cons (by decide) rest
    rw [toList_text_nullable, List.append_assoc, List.singleton_append, ih _ _ hends,
      readFrom_question h.type?_endState (canMark_endState ht), asNullable_of_ne ht]
    rfl
  | @named name arguments hn hk hf ha ih =>
    have hwhole : ofName name arguments = .named name arguments :=
      (WellFormed.named hn hk hf ha).ofName_eq
    cases arguments with
    | nil => exact readFrom_name hn hrest stack
    | cons t ts =>
      have hall : ∀ u ∈ t :: ts, u.WellFormed ∧ u.Readable := fun u hu => ⟨ha u hu, ih u hu⟩
      obtain ⟨⟨hwell, hread⟩, hmore⟩ := List.forall_mem_cons.mp hall
      have hends : EndsName ((ts.flatMap fun t => ',' :: ' ' :: t.text.toList) ++ '>' :: rest) := by
        cases ts <;> exact endsName_cons (by decide) _
      rw [toList_text_named_cons, List.append_assoc, List.cons_append, List.append_assoc,
        List.append_assoc, List.singleton_append, readFrom_name hn (endsName_cons (by decide) _),
        readFrom_opening, hread _ _ hends, readFrom_more hmore hwell.type?_endState, List.nil_append,
        hwhole]
      rfl
  | @function parameters result hp hr ihp ihr =>
    have hall : ∀ u ∈ parameters, u.WellFormed ∧ u.Readable := fun u hu => ⟨hp u hu, ihp u hu⟩
    have hfunc : ∀ cs : List Char, 'F' :: 'u' :: 'n' :: 'c' :: cs = "Func".toList ++ cs :=
      fun _ => rfl
    rw [toList_text_function, hfunc, List.append_assoc, List.cons_append, List.append_assoc,
      List.append_assoc, List.singleton_append,
      readFrom_name isTypeName_func (endsName_cons (by decide) _), readFrom_opening,
      readFrom_lead hall ⟨hr, ihr⟩, List.nil_append, ofName_func]
    rfl

theorem WellFormed.parse?_text {t : Ty} (h : t.WellFormed) : parse? t.text = some t := by
  have hread := h.readable [] [] endsName_nil
  rw [List.append_nil] at hread
  rw [parse?_eq_readFrom, hread]
  exact h.type?_endState

theorem parse_eq_ok_iff {s : String} {t : Ty} : parse s = .ok t ↔ parse? s = some t := by
  unfold parse
  cases parse? s <;> simp

theorem wellFormed_of_parse {s : String} {t : Ty} (h : parse s = .ok t) : t.WellFormed :=
  wellFormed_of_parse? (parse_eq_ok_iff.mp h)

theorem WellFormed.parse_text {t : Ty} (h : t.WellFormed) : parse t.text = .ok t :=
  parse_eq_ok_iff.mpr h.parse?_text

theorem parse_text_inverse_on_wellFormed :
    (∀ s t, parse s = .ok t → t.WellFormed) ∧ ∀ t : Ty, parse t.text = .ok t ↔ t.WellFormed :=
  ⟨fun _ _ => wellFormed_of_parse, fun _ => ⟨wellFormed_of_parse, WellFormed.parse_text⟩⟩

/-- Blanks around the marks are lost, and a name that is a keyword elsewhere may take arguments. -/
theorem parse_text_inverse_on_wellFormed_nested :
    parse " int < Func<A.b ,void ?>, ñ_1? > " =
        .ok (.named "int" [.function [.named "A.b" []] (.nullable .void),
          .nullable (.named "ñ_1" [])]) ∧
      (Ty.named "int" [.function [.named "A.b" []] (.nullable .void),
        .nullable (.named "ñ_1" [])]).WellFormed ∧
      ¬(Ty.nullable (.nullable .int)).WellFormed := by
  have hparse : parse " int < Func<A.b ,void ?>, ñ_1? > " =
      .ok (.named "int" [.function [.named "A.b" []] (.nullable .void),
        .nullable (.named "ñ_1" [])]) := parse_eq_ok_iff.mpr (by decide +kernel)
  refine ⟨hparse, parse_text_inverse_on_wellFormed.1 _ _ hparse, ?_⟩
  rw [← parse_text_inverse_on_wellFormed.2, parse_eq_ok_iff]
  decide +kernel

end Legible.Ty
