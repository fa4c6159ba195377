import Legible.Proofs.TypeRoundTrip

/-!
# The grammar of type texts

A type is spelled as a name, perhaps a list of types between angle brackets, and perhaps a question
mark, with blanks in front of each of these. The reader takes exactly the texts that are spelled so,
and blanks between tokens never count.
-/

namespace Legible.Ty

def Blanks (cs : List Char) : Prop := ∀ c ∈ cs, Text.isBlank c = true

instance (cs : List Char) : Decidable (Blanks cs) := inferInstanceAs (Decidable (∀ c ∈ cs, _))

inductive Denotes : String → List Ty → Ty → Prop where
  | keyword (k : Keyword) : Denotes k.text [] (.keyword k)
  | plain {n : String} (h : ∀ k : Keyword, k.text ≠ n) : Denotes n [] (.named n [])
  | function (parameters : List Ty) (result : Ty) :
      Denotes "Func" (parameters ++ [result]) (.function parameters result)
  | generic {n : String} {ts : List Ty} (hn : n ≠ "Func") (hts : ts ≠ []) :
      Denotes n ts (.named n ts)

inductive Marked (t : Ty) : List Char → Ty → Prop where
  | plain : Marked t [] t
  | question {ws : List Char} (hw : Blanks ws) : Marked t (ws ++ ['?']) (.nullable t)

inductive More (P : List Char → Ty → Prop) : List Char → List Ty → Prop where
  | nil : More P [] []
  | cons {ws s r : List Char} {t : Ty} {ts : List Ty} (hw : Blanks ws) (h : P s t)
      (hr : More P r ts) : More P (ws ++ ',' :: (s ++ r)) (t :: ts)

inductive Arguments (P : List Char → Ty → Prop) : List Char → List Ty → Prop where
  | none : Arguments P [] []
  | list {ws s r close : List Char} {t : Ty} {ts : List Ty} (hw : Blanks ws) (h : P s t)
      (hr : More P r ts) (hc : Blanks close) :
      Arguments P (ws ++ '<' :: (s ++ (r ++ (close ++ ['>'])))) (t :: ts)

inductive Spelled : List Char → Ty → Prop where
  | type {ws a m : List Char} {n : String} {ts : List Ty} {t u : Ty} (hw : Blanks ws)
      (hn : IsTypeName n) (ha : Arguments Spelled a ts) (ht : Denotes n ts t) (hm : Marked t m u) :
      Spelled (ws ++ (n.toList ++ (a ++ m))) u

def IsTypeText (cs : List Char) (t : Ty) : Prop :=
  ∃ s ws, cs = s ++ ws ∧ Spelled s t ∧ Blanks ws

theorem Spelled.induct {motive : List Char → Ty → Prop}
    (type : ∀ {ws a m : List Char} {n : String} {ts : List Ty} {t u : Ty}, Blanks ws →
      IsTypeName n → Arguments motive a ts → Denotes n ts t → Marked t m u →
      motive (ws ++ (n.toList ++ (a ++ m))) u)
    {s : List Char} {t : Ty} (h : Spelled s t) : motive s t := by
  refine @Spelled.rec (fun s t _ => motive s t) (fun a ts _ => Arguments motive a ts)
    (fun r ts _ => More motive r ts) ?_ ?_ ?_ ?_ ?_ s t h
  · intro ws a m n ts t u hw hn _ ht hm iha
    exact type hw hn iha ht hm
  · exact .none
  · intro ws s r close t ts hw _ _ hc ih ihr
    exact .list hw ih ihr hc
  · exact .nil
  · intro ws s r t ts hw _ _ ih ihr
    exact .cons hw ih ihr

/-! ## What a name denotes -/

theorem ofText?_eq_none_iff {n : String} : Keyword.ofText? n = none ↔ ∀ k : Keyword, k.text ≠ n := by
  unfold Keyword.ofText?
  rw [List.find?_eq_none]
  constructor
  · intro h k hk
    refine h k ?_ (beq_iff_eq.mpr hk)
    cases k <;> decide
  · intro h k _ hk
    exact h k (beq_iff_eq.mp hk)

theorem text_of_ofText? {n : String} {k : Keyword} (h : Keyword.ofText? n = some k) :
    k.text = n := by
  have hk := List.find?_some h
  exact beq_iff_eq.mp hk

theorem Denotes.eq_ofName {n : String} {ts : List Ty} {t : Ty} (h : Denotes n ts t) :
    t = ofName n ts := by
  cases h with
  | keyword k => exact (ofName_keyword k).symm
  | plain h => simp only [ofName, List.getLast?_nil, ofText?_eq_none_iff.mpr h]
  | function parameters result => exact (ofName_func parameters result).symm
  | generic hn hts =>
    obtain ⟨u, us, rfl⟩ := List.exists_cons_of_ne_nil hts
    simp only [ofName, List.getLast?_cons, if_neg hn]

theorem denotes_ofName (n : String) (ts : List Ty) : Denotes n ts (ofName n ts) := by
  unfold ofName
  split
  · rename_i hlast
    rw [List.getLast?_eq_none_iff.mp hlast]
    split
    · rename_i k hk
      rw [← text_of_ofText? hk]
      exact .keyword k
    · rename_i hk
      exact .plain (ofText?_eq_none_iff.mp hk)
  · rename_i result hlast
    obtain ⟨parameters, rfl⟩ := List.getLast?_eq_some_iff.mp hlast
    rw [List.dropLast_concat]
    split
    · rename_i hn
      rw [hn]
      exact .function parameters result
    · rename_i hn
      exact .generic hn (List.append_ne_nil_of_right_ne_nil _ (List.cons_ne_nil result []))

theorem ofName_ne_nullable (n : String) (ts : List Ty) (u : Ty) : ofName n ts ≠ .nullable u := by
  intro h
  have hd := denotes_ofName n ts
  rw [h] at hd
  cases hd

/-! ## Blanks -/

theorem isNameChar_of_isBlank {c : Char} (h : Text.isBlank c = true) : isNameChar c = false := by
  -- letters and numbers are tables, so each of the few blanks is looked up
  have hcodes : ∀ r ∈ Text.blankRanges, ∀ n ∈ List.range' r.1 (r.2 + 1 - r.1),
      isNameChar (Char.ofNat n) = false := by
    decide +kernel
  obtain ⟨r, hr, hc⟩ := List.any_eq_true.mp h
  simp only [Bool.and_eq_true, decide_eq_true_eq] at hc
  have hcode := hcodes r hr c.toNat (List.mem_range'_1.mpr ⟨hc.1, by omega⟩)
  rwa [Char.ofNat_toNat] at hcode

theorem EndsName.blanks {ws rest : List Char} (hw : Blanks ws) (h : EndsName rest) :
    EndsName (ws ++ rest) := by
  cases ws with
  | nil => exact h
  | cons c ws => exact endsName_cons (isNameChar_of_isBlank (hw c List.mem_cons_self)) _

theorem tokens?_blanks {ws : List Char} (hw : Blanks ws) (rest : List Char) :
    tokens? (ws ++ rest) = tokens? rest := by
  induction ws with
  | nil => rfl
  | cons c ws ih =>
    obtain ⟨hc, hws⟩ := List.forall_mem_cons.mp hw
    rw [List.cons_append, tokens?_blank (isNameChar_of_isBlank hc) hc, ih hws]

theorem readFrom_blanks {ws : List Char} (hw : Blanks ws) (stack : List Frame) (state : State)
    (rest : List Char) : readFrom stack state (ws ++ rest) = readFrom stack state rest := by
  unfold readFrom
  rw [tokens?_blanks hw]

/-! ## Every spelled text is read -/

/-- The text takes the reader from where a type begins to where it has read this type. -/
def Reaches (s : List Char) (t : Ty) : Prop :=
  ∃ state : State, state.type? = some t ∧ ∀ (stack : List Frame) (rest : List Char),
    EndsName rest → readFrom stack .start (s ++ rest) = readFrom stack state rest

theorem More.endsName {P : List Char → Ty → Prop} {r rest : List Char} {ts : List Ty}
    (h : More P r ts) (hrest : EndsName rest) : EndsName (r ++ rest) := by
  cases h with
  | nil => exact hrest
  | cons hw h hr =>
    rw [List.append_assoc]
    exact .blanks hw (endsName_cons (by decide) _)

theorem Marked.endsName {t u : Ty} {m rest : List Char} (h : Marked t m u) (hrest : EndsName rest) :
    EndsName (m ++ rest) := by
  cases h with
  | plain => exact hrest
  | question hw =>
    rw [List.append_assoc]
    exact .blanks hw (endsName_cons (by decide) _)

theorem Arguments.endsName {P : List Char → Ty → Prop} {a rest : List Char} {ts : List Ty}
    (h : Arguments P a ts) (hrest : EndsName rest) : EndsName (a ++ rest) := by
  cases h with
  | none => exact hrest
  | list hw h hr hc =>
    rw [List.append_assoc]
    exact .blanks hw (endsName_cons (by decide) _)

theorem More.readFrom {r close : List Char} {ts : List Ty} (h : More Reaches r ts)
    (hc : Blanks close) {state : State} {u : Ty} (hu : state.type? = some u) (n : String)
    (before : List Ty) (stack : List Frame) (rest : List Char) :
    readFrom (⟨n, before⟩ :: stack) state (r ++ (close ++ '>' :: rest)) =
      Ty.readFrom stack (.type (ofName n (before ++ u :: ts))) rest := by
  -- the arguments read so far are in the frame, and the latest of them in the state
  induction h generalizing state u before with
  | nil => rw [List.nil_append, readFrom_blanks hc, readFrom_closing hu]
  | @cons ws s r t ts hw h hr ih =>
    obtain ⟨state', hstate', hread⟩ := h
    have hends : EndsName (r ++ (close ++ '>' :: rest)) :=
      hr.endsName (.blanks hc (endsName_cons (by decide) rest))
    rw [List.append_assoc, readFrom_blanks hw, List.cons_append, List.append_assoc,
      readFrom_comma hu, hread _ _ hends, ih hstate', List.append_assoc]
    rfl

def afterArguments (n : String) : List Ty → State
  | [] => .name n
  | ts => .type (ofName n ts)

theorem afterArguments_type? (n : String) (ts : List Ty) :
    (afterArguments n ts).type? = some (ofName n ts) ∧ (afterArguments n ts).canMark = true := by
  cases ts <;> exact ⟨rfl, rfl⟩

theorem Arguments.readFrom {a : List Char} {ts : List Ty} (h : Arguments Reaches a ts) (n : String)
    (stack : List Frame) (rest : List Char) :
    readFrom stack (.name n) (a ++ rest) = Ty.readFrom stack (afterArguments n ts) rest := by
  cases h with
  | none => rfl
  | @list ws s r close t ts hw h hr hc =>
    obtain ⟨state, hstate, hread⟩ := h
    have hends : EndsName (r ++ (close ++ '>' :: rest)) :=
      hr.endsName (.blanks hc (endsName_cons (by decide) rest))
    rw [List.append_assoc, readFrom_blanks hw, List.cons_append, readFrom_opening,
      List.append_assoc, List.append_assoc, List.append_assoc, List.singleton_append,
      hread _ _ hends, hr.readFrom hc hstate]
    rfl

theorem Spelled.reaches {s : List Char} {t : Ty} (h : Spelled s t) : Reaches s t := by
  refine Spelled.induct ?_ h
  intro ws a m n ts t u hw hn ha ht hm
  obtain ⟨htype, hmark⟩ := afterArguments_type? n ts
  have hname : ∀ stack rest, EndsName rest →
      readFrom stack .start ((ws ++ (n.toList ++ (a ++ m))) ++ rest) =
        readFrom stack (afterArguments n ts) (m ++ rest) := by
    intro stack rest hrest
    rw [List.append_assoc, readFrom_blanks hw, List.append_assoc, List.append_assoc,
      readFrom_name hn (ha.endsName (hm.endsName hrest)), ha.readFrom]
  obtain rfl := ht.eq_ofName
  cases hm with
  | plain => exact ⟨afterArguments n ts, htype, hname⟩
  | @question gap hgap =>
    refine ⟨.marked (.nullable (ofName n ts)), rfl, fun stack rest hrest => ?_⟩
    rw [hname stack rest hrest, List.append_assoc, readFrom_blanks hgap, List.singleton_append,
      readFrom_question htype hmark, asNullable_of_ne (ofName_ne_nullable n ts)]

theorem IsTypeText.parse? {s : String} {t : Ty} (h : IsTypeText s.toList t) :
    Ty.parse? s = some t := by
  obtain ⟨text, ws, hs, htext, hw⟩ := h
  obtain ⟨state, hstate, hread⟩ := htext.reaches
  rw [parse?_eq_readFrom, hs, hread _ _ (List.append_nil ws ▸ .blanks hw endsName_nil)]
  have hend := readFrom_blanks hw [] state []
  rw [List.append_nil] at hend
  rw [hend]
  exact hstate

/-! ## Only spelled texts are read -/

def Token.text : Token → List Char
  | .name n => n.toList
  | .opening => ['<']
  | .comma => [',']
  | .closing => ['>']
  | .question => ['?']

theorem text_of_mark? {c : Char} {m : Token} (h : mark? c = some m) : m.text = [c] := by
  grind [mark?, Token.text]

theorem tokens?_of_isNameChar {c : Char} {cs : List Char} (hc : isNameChar c = true)
    {ts : List Token} (h : tokens? (c :: cs) = some ts) :
    ∃ n r rest, ts = .name n :: rest ∧ c :: cs = n.toList ++ r ∧ tokens? r = some rest := by
  have hsplit := List.takeWhile_append_dropWhile (p := isNameChar) (l := c :: cs)
  have hrun : ∀ d ∈ (c :: cs).takeWhile isNameChar, isNameChar d = true := fun d hd =>
    List.all_eq_true.mp List.all_takeWhile d hd
  have hends : EndsName ((c :: cs).dropWhile isNameChar) := by
    intro d ds hd
    have hhead := List.head?_dropWhile_not isNameChar (c :: cs)
    rw [hd] at hhead
    simpa using hhead
  rw [← hsplit, tokens?, tokensFrom_append hrun, List.append_nil, tokensFrom_of_endsName hends] at h
  obtain ⟨rest, hrest, hclose⟩ := Option.bind_eq_some_iff.mp h
  rw [closeName, List.reverse_reverse, List.takeWhile_cons_of_pos hc] at hclose
  dsimp only at hclose
  split at hclose
  · cases hclose
    refine ⟨_, _, rest, rfl, ?_, hrest⟩
    rw [String.toList_ofList, ← List.takeWhile_cons_of_pos hc]
    exact hsplit.symm
  · cases hclose

theorem exists_of_tokens? {cs : List Char} {ts : List Token} (h : tokens? cs = some ts) :
    match ts with
    | [] => Blanks cs
    | token :: rest => ∃ ws r, cs = ws ++ (token.text ++ r) ∧ Blanks ws ∧ tokens? r = some rest := by
  induction cs generalizing ts with
  | nil =>
    cases h
    exact List.forall_mem_nil _
  | cons c cs ih =>
    cases hc : isNameChar c with
    | true =>
      obtain ⟨n, r, rest, rfl, htext, hrest⟩ := tokens?_of_isNameChar hc h
      exact ⟨[], r, htext, List.forall_mem_nil _, hrest⟩
    | false =>
      cases hb : Text.isBlank c with
      | true =>
        rw [tokens?_blank hc hb] at h
        have hcs := ih h
        cases ts with
        | nil => exact List.forall_mem_cons.mpr ⟨hb, hcs⟩
        | cons token rest =>
          obtain ⟨ws, r, rfl, hw, hrest⟩ := hcs
          exact ⟨c :: ws, r, rfl, List.forall_mem_cons.mpr ⟨hb, hw⟩, hrest⟩
      | false =>
        cases hm : mark? c with
        | none => simp [tokens?, tokensFrom, hc, hb, hm] at h
        | some m =>
          rw [tokens?_mark hc hb hm] at h
          obtain ⟨rest, hrest, rfl⟩ := Option.map_eq_some_iff.mp h
          refine ⟨[], cs, ?_, List.forall_mem_nil _, hrest⟩
          rw [text_of_mark? hm]
          rfl

/-- What follows a type `u` inside these open lists, if the whole is to be `t`. -/
def Tail : List Frame → Ty → List Char → Ty → Prop
  | [], u, cs, t => Blanks cs ∧ u = t
  | f :: stack, u, cs, t => ∃ more us close m v r,
      cs = more ++ (close ++ '>' :: (m ++ r)) ∧ More Spelled more us ∧ Blanks close ∧
      Marked (ofName f.name (f.arguments ++ u :: us)) m v ∧ Tail stack v r t

/-- What follows the state of the reader, if the whole is to be `t`. -/
def Rest (stack : List Frame) : State → List Char → Ty → Prop
  | .start, cs, t => ∃ s u r, cs = s ++ r ∧ Spelled s u ∧ Tail stack u r t
  | .name n, cs, t => ∃ a us m v r, cs = a ++ (m ++ r) ∧ Arguments Spelled a us ∧
      Marked (ofName n us) m v ∧ Tail stack v r t
  | .type u, cs, t => ∃ m v r, cs = m ++ r ∧ Marked u m v ∧ Tail stack v r t
  | .marked u, cs, t => Tail stack u cs t

theorem Tail.rest {stack : List Frame} {state : State} {u t : Ty} {cs : List Char}
    (h : Tail stack u cs t) (hu : state.type? = some u) : Rest stack state cs t := by
  cases state with
  | start => cases hu
  | name n =>
    cases hu
    exact ⟨[], [], [], _, cs, rfl, .none, .plain, h⟩
  | type u =>
    cases hu
    exact ⟨[], u, cs, rfl, .plain, h⟩
  | marked u =>
    cases hu
    exact h

theorem Rest.name {stack : List Frame} {n : String} (hn : IsTypeName n) {ws cs : List Char} {t : Ty}
    (hw : Blanks ws) (h : Rest stack (.name n) cs t) :
    Rest stack .start (ws ++ (n.toList ++ cs)) t := by
  obtain ⟨a, us, m, v, r, rfl, ha, hm, htail⟩ := h
  refine ⟨ws ++ (n.toList ++ (a ++ m)), v, r, ?_, .type hw hn ha (denotes_ofName n us) hm, htail⟩
  simp only [List.append_assoc]

theorem Rest.opening {stack : List Frame} {n : String} {ws cs : List Char} {t : Ty}
    (hw : Blanks ws) (h : Rest (⟨n, []⟩ :: stack) .start cs t) :
    Rest stack (.name n) (ws ++ '<' :: cs) t := by
  obtain ⟨s, u, r, rfl, hs, more, us, close, m, v, r', rfl, hmore, hc, hm, htail⟩ := h
  refine ⟨ws ++ '<' :: (s ++ (more ++ (close ++ ['>']))), u :: us, m, v, r', ?_,
    .list hw hs hmore hc, hm, htail⟩
  simp only [List.append_assoc, List.cons_append, List.nil_append]

theorem Rest.comma {f : Frame} {stack : List Frame} {u t : Ty} {ws cs : List Char} (hw : Blanks ws)
    (h : Rest (⟨f.name, f.arguments ++ [u]⟩ :: stack) .start cs t) :
    Tail (f :: stack) u (ws ++ ',' :: cs) t := by
  obtain ⟨s, u', r, rfl, hs, more, us, close, m, v, r', rfl, hmore, hc, hm, htail⟩ := h
  refine ⟨ws ++ ',' :: (s ++ more), u' :: us, close, m, v, r', ?_, .cons hw hs hmore, hc, ?_, htail⟩
  · simp only [List.append_assoc, List.cons_append]
  · simpa only [List.append_assoc, List.singleton_append] using hm

theorem Rest.closing {f : Frame} {stack : List Frame} {u t : Ty} {ws cs : List Char} (hw : Blanks ws)
    (h : Rest stack (.type (ofName f.name (f.arguments ++ [u]))) cs t) :
    Tail (f :: stack) u (ws ++ '>' :: cs) t := by
  obtain ⟨m, v, r, rfl, hm, htail⟩ := h
  exact ⟨[], [], ws, m, v, r, rfl, .nil, hw, hm, htail⟩

/-- Before a question mark, the reader holds a type without one. -/
def State.Unmarked : State → Prop
  | .type u => ∀ v, u ≠ .nullable v
  | _ => True

theorem Rest.question {stack : List Frame} {state : State} (hplain : state.Unmarked)
    (hmark : state.canMark = true) {u t : Ty} (hu : state.type? = some u) {ws cs : List Char}
    (hw : Blanks ws) (h : Rest stack (.marked u.asNullable) cs t) :
    Rest stack state (ws ++ '?' :: cs) t := by
  have htext : ws ++ '?' :: cs = (ws ++ ['?']) ++ cs := by
    rw [List.append_assoc, List.singleton_append]
  cases state with
  | start => cases hmark
  | marked _ => cases hmark
  | name n =>
    cases hu
    rw [asNullable_of_ne (ofName_ne_nullable n [])] at h
    exact ⟨[], [], _, _, cs, htext, .none, .question hw, h⟩
  | type u =>
    cases hu
    rw [asNullable_of_ne hplain] at h
    exact ⟨_, _, cs, htext, .question hw, h⟩

theorem rest_of_run {ts : List Token} {stack : List Frame} {state : State} {cs : List Char} {t : Ty}
    (hplain : state.Unmarked) (hnames : ∀ n, .name n ∈ ts → IsTypeName n)
    (htokens : tokens? cs = some ts) (h : run stack state ts = some t) : Rest stack state cs t := by
  -- what was read is in the stack and the state, so only the text ahead is spoken of
  induction ts generalizing stack state cs with
  | nil =>
    rw [run] at h
    split at h
    · rename_i hstack
      rw [List.isEmpty_iff.mp hstack]
      exact Tail.rest ⟨exists_of_tokens? htokens, rfl⟩ h
    · cases h
  | cons token rest ih =>
    obtain ⟨ws, r, rfl, hw, hrest⟩ := exists_of_tokens? htokens
    have htail := fun n hn => hnames n (List.mem_cons_of_mem token hn)
    rw [run] at h
    split at h
    · rename_i stack' state' hstep
      cases token with
      | name n =>
        cases state with
        | start =>
          cases hstep
          exact .name (hnames n List.mem_cons_self) hw (ih trivial htail hrest h)
        | name _ => cases hstep
        | type _ => cases hstep
        | marked _ => cases hstep
      | opening =>
        cases state with
        | name n =>
          cases hstep
          exact .opening hw (ih trivial htail hrest h)
        | start => cases hstep
        | type _ => cases hstep
        | marked _ => cases hstep
      | question =>
        simp only [step] at hstep
        split at hstep
        · rename_i hmark
          obtain ⟨u, hu, hnext⟩ := Option.map_eq_some_iff.mp hstep
          cases hnext
          exact .question hplain hmark hu hw (ih trivial htail hrest h)
        · cases hstep
      | comma =>
        simp only [step] at hstep
        split at hstep
        · rename_i u f stack hu
          cases hstep
          exact (Rest.comma hw (ih trivial htail hrest h)).rest hu
        · cases hstep
      | closing =>
        simp only [step] at hstep
        split at hstep
        · rename_i u f stack hu
          cases hstep
          exact (Rest.closing hw (ih (ofName_ne_nullable _ _) htail hrest h)).rest hu
        · cases hstep
    · cases h

theorem isTypeText_of_parse? {s : String} {t : Ty} (h : parse? s = some t) :
    IsTypeText s.toList t := by
  obtain ⟨ts, htokens, hrun⟩ := Option.bind_eq_some_iff.mp h
  have hnames := tokensFrom_names (List.forall_mem_nil _) htokens
  have hrest : Rest [] .start s.toList t := rest_of_run trivial hnames htokens hrun
  obtain ⟨text, u, ws, hs, htext, hw, rfl⟩ := hrest
  exact ⟨text, ws, hs, htext, hw⟩

theorem parse_eq_ok_iff_isTypeText {s : String} {t : Ty} :
    parse s = .ok t ↔ IsTypeText s.toList t := by
  rw [parse_eq_ok_iff]
  exact ⟨isTypeText_of_parse?, IsTypeText.parse?⟩

/-! ## Blanks between tokens -/

def BetweenTokens (pre post : List Char) : Prop :=
  (∀ c, pre.getLast? = some c → isNameChar c = false) ∨ EndsName post

theorem tokensFrom_congr {xs ys : List Char} (h : ∀ read, tokensFrom read xs = tokensFrom read ys)
    (pre read : List Char) : tokensFrom read (pre ++ xs) = tokensFrom read (pre ++ ys) := by
  induction pre generalizing read with
  | nil => exact h read
  | cons c pre ih => rw [List.cons_append, List.cons_append, tokensFrom, tokensFrom, ih, ih]

theorem tokens?_insert {pre ws post : List Char} (hw : Blanks ws) (hcut : BetweenTokens pre post) :
    tokens? (pre ++ (ws ++ post)) = tokens? (pre ++ post) := by
  rcases hcut with hpre | hpost
  · rcases List.eq_nil_or_concat pre with rfl | ⟨front, c, rfl⟩
    · exact tokens?_blanks hw post
    · have hc : isNameChar c = false := hpre c (by rw [List.concat_eq_append, List.getLast?_concat])
      rw [List.concat_eq_append, List.append_assoc, List.append_assoc]
      refine tokensFrom_congr (fun read => ?_) front []
      have hblanks : tokensFrom [] (ws ++ post) = tokensFrom [] post := tokens?_blanks hw post
      simp only [List.singleton_append, tokensFrom, hc, hblanks, Bool.false_eq_true, if_false]
  · refine tokensFrom_congr (fun read => ?_) pre []
    rw [tokensFrom_of_endsName (.blanks hw hpost), tokensFrom_of_endsName hpost, tokens?_blanks hw]

/-- Whatever stands before these tokens, they do not end a type. -/
def NeverRuns (ts : List Token) : Prop := ∀ stack state, run stack state ts = none

theorem NeverRuns.cons {ts : List Token} (h : NeverRuns ts) (token : Token) :
    NeverRuns (token :: ts) := by
  intro stack state
  rw [run]
  split
  · exact h _ _
  · rfl

theorem neverRuns_names (m n : String) (ts : List Token) : NeverRuns (.name m :: .name n :: ts) := by
  intro stack state
  cases state <;> rfl

theorem NeverRuns.closeName {read : List Char} {ts ts' : List Token} (h : NeverRuns ts)
    (hclose : closeName read ts = some ts') : NeverRuns ts' := by
  unfold Ty.closeName at hclose
  split at hclose
  · cases hclose
    exact h
  · split at hclose
    · cases hclose
      exact h.cons _
    · cases hclose

def Refused (cs : List Char) : Prop := ∀ read ts, tokensFrom read cs = some ts → NeverRuns ts

theorem Refused.append {cs : List Char} (h : Refused cs) (pre : List Char) : Refused (pre ++ cs) := by
  induction pre with
  | nil => exact h
  | cons c pre ih =>
    intro read ts hts
    rw [List.cons_append, tokensFrom] at hts
    split at hts
    · exact ih _ _ hts
    · split at hts
      · obtain ⟨rest, hrest, hclose⟩ := Option.bind_eq_some_iff.mp hts
        exact (ih _ _ hrest).closeName hclose
      · split at hts
        · rename_i m _
          obtain ⟨rest, hrest, hclose⟩ := Option.bind_eq_some_iff.mp hts
          exact ((ih _ _ hrest).cons m).closeName hclose
        · cases hts

theorem refused_names {c d : Char} {ws post : List Char} (hc : isNameChar c = true) (hw : Blanks ws)
    (hne : ws ≠ []) (hd : isNameChar d = true) : Refused (c :: (ws ++ d :: post)) := by
  intro read ts hts
  have hends : EndsName (ws ++ d :: post) := by
    obtain ⟨b, bs, rfl⟩ := List.exists_cons_of_ne_nil hne
    exact endsName_cons (isNameChar_of_isBlank (hw b List.mem_cons_self)) _
  rw [tokensFrom, if_pos hc, tokensFrom_of_endsName hends, tokens?_blanks hw] at hts
  obtain ⟨rest, hrest, hclose⟩ := Option.bind_eq_some_iff.mp hts
  obtain ⟨n, r, rest', rfl, -, -⟩ := tokens?_of_isNameChar hd hrest
  unfold closeName at hclose
  split at hclose
  · rename_i hread
    exact absurd (List.reverse_eq_nil_iff.mp hread) (List.cons_ne_nil c read)
  · split at hclose
    · cases hclose
      exact neverRuns_names _ n rest'
    · cases hclose

theorem betweenTokens_of_parse? {pre ws post : List Char} (hw : Blanks ws) (hne : ws ≠ []) {t : Ty}
    (h : parse? (String.ofList (pre ++ (ws ++ post))) = some t) : BetweenTokens pre post := by
  cases hlast : pre.getLast? with
  | none =>
    refine .inl fun c hc => ?_
    rw [hlast] at hc
    cases hc
  | some c =>
    cases hc : isNameChar c with
    | false =>
      refine .inl fun d hd => ?_
      rw [hlast] at hd
      cases hd
      exact hc
    | true =>
      cases post with
      | nil => exact .inr endsName_nil
      | cons d rest =>
        cases hd : isNameChar d with
        | false => exact .inr (endsName_cons hd rest)
        | true =>
          obtain ⟨front, rfl⟩ := List.getLast?_eq_some_iff.mp hlast
          rw [parse?, String.toList_ofList, List.append_assoc] at h
          obtain ⟨ts, htokens, hrun⟩ := Option.bind_eq_some_iff.mp h
          have hnames : Refused (c :: (ws ++ d :: rest)) := refused_names hc hw hne hd
          have hnever : run [] .start ts = none := hnames.append front [] ts htokens [] .start
          rw [ofTokens?, hnever] at hrun
          cases hrun

theorem parse?_insert {pre ws post : List Char} (hw : Blanks ws) (hcut : BetweenTokens pre post) :
    parse? (String.ofList (pre ++ (ws ++ post))) = parse? (String.ofList (pre ++ post)) := by
  rw [parse?, parse?, String.toList_ofList, String.toList_ofList, tokens?_insert hw hcut]

theorem parse?_remove {pre ws post : List Char} (hw : Blanks ws) {t : Ty}
    (h : parse? (String.ofList (pre ++ (ws ++ post))) = some t) :
    parse? (String.ofList (pre ++ post)) = some t := by
  by_cases hne : ws = []
  · rw [hne] at h
    exact h
  · rw [← parse?_insert hw (betweenTokens_of_parse? hw hne h)]
    exact h

/-! ## The reader and its grammar -/

theorem parse_accepts_exactly_grammar (s : String) :
    (∀ t, parse s = .ok t ↔ IsTypeText s.toList t) ∧
      (parse s = .error (.invalidLiteral "type" s) ↔ ¬∃ t, IsTypeText s.toList t) ∧
      (∀ pre ws post t, s.toList = pre ++ (ws ++ post) → Blanks ws → parse s = .ok t →
        parse (String.ofList (pre ++ post)) = .ok t) ∧
      ∀ pre ws post t, s.toList = pre ++ post → Blanks ws → BetweenTokens pre post →
        parse s = .ok t → parse (String.ofList (pre ++ (ws ++ post))) = .ok t := by
  refine ⟨fun t => parse_eq_ok_iff_isTypeText, ?_, ?_, ?_⟩
  · simp only [← parse_eq_ok_iff_isTypeText, parse]
    cases parse? s <;> simp
  · intro pre ws post t hs hw h
    rw [parse_eq_ok_iff, ← String.ofList_toList (s := s), hs] at h
    exact parse_eq_ok_iff.mpr (parse?_remove hw h)
  · intro pre ws post t hs hw hcut h
    rw [parse_eq_ok_iff, ← String.ofList_toList (s := s), hs] at h
    rw [parse_eq_ok_iff, parse?_insert hw hcut]
    exact h

/-- A blank before the bracket and its removal; without a bracket it would part two names. -/
theorem parse_accepts_exactly_grammar_spaced :
    parse "List<int?>" = .ok (.named "List" [.nullable .int]) ∧
      parse "List <int?>" = .ok (.named "List" [.nullable .int]) ∧
      IsTypeText "List <int?>".toList (.named "List" [.nullable .int]) ∧
      parse "int extra" = .error (.invalidLiteral "type" "int extra") := by
  have hclose : parse "List<int?>" = .ok (.named "List" [.nullable .int]) :=
    parse_eq_ok_iff.mpr (by decide +kernel)
  have hspaced : parse "List <int?>" = .ok (.named "List" [.nullable .int]) :=
    (parse_accepts_exactly_grammar "List<int?>").2.2.2 "List".toList [' '] "<int?>".toList _ rfl
      (by decide) (.inr (endsName_cons (by decide) _)) hclose
  refine ⟨?_, hspaced, ((parse_accepts_exactly_grammar "List <int?>").1 _).mp hspaced, ?_⟩
  · exact (parse_accepts_exactly_grammar "List <int?>").2.2.1 "List".toList [' '] "<int?>".toList _
      rfl (by decide) hspaced
  · have hnone : parse? "int extra" = none := by decide +kernel
    rw [parse, hnone]

end Legible.Ty
