import Legible.Proofs.Grammar.Levels
import Legible.Proofs.Grammar.Unambiguous
import Legible.Proofs.LineBreaks
import Legible.Proofs.Terms

/-!
# Grouping is never lost

The text of a tree is a phrase of the grammar, it stands for the tree, and it stands for nothing else.
-/

namespace Legible

open Grammar

namespace Draft

@[simp] theorem flat_append (a b : Draft) : (a ++ b).flat = a.flat ++ b.flat := rfl

@[simp] theorem flat_token (t : String) : (Draft.token t).flat = t.toList := rfl

@[simp] theorem flat_text (s : String) : (Draft.text s).flat = s.toList := rfl

@[simp] theorem flat_empty : empty.flat = [] := rfl

theorem flat_joined_cons_cons (separator : String) (d d' : Draft) (rest : List Draft) :
    (joined separator (d :: d' :: rest)).flat =
      d.flat ++ (separator.toList ++ (joined separator (d' :: rest)).flat) := by
  simp [joined, joinedTail]

theorem flat_joined_singleton (separator : String) (d : Draft) :
    (joined separator [d]).flat = d.flat := by
  simp [joined, joinedTail]

theorem commas_joined {α : Type} {P : List Char → α → Prop} {ds : List Draft} {as : List α}
    (h : List.Forall₂ (fun d a => P d.flat a) ds as) (hne : as ≠ []) :
    Commas P (joined ", " ds).flat as := by
  induction h with
  | nil => exact (hne rfl).elim
  | cons hd htail ih =>
    cases htail with
    | nil =>
      rw [flat_joined_singleton]
      exact .one hd
    | cons hd' htail' =>
      rw [flat_joined_cons_cons]
      exact .more hd (ih (List.cons_ne_nil _ _))

/-- An operand stands in its place, with parentheses or without. -/
theorem derives_grouped {d : Draft} {t : Term} (h : Derives t.level d.flat t) {l : Level}
    {parentheses : Bool} (hg : parentheses = true ↔ t.level.rank < l.rank) :
    Derives l (grouped parentheses d).flat t := by
  cases parentheses with
  | true => exact Derives.loosen (.group h.top) l.rank_le_primary
  | false =>
    refine h.loosen (Nat.le_of_not_lt fun hlt => ?_)
    cases hg.mpr hlt

theorem typeArguments_spelled (explicit : Bool) {types : List Ty}
    (h : ∀ t ∈ types, Ty.parse? t.text = some t) :
    TypeArguments (if explicit then typeArguments types else empty).flat
      (if explicit then types else []) := by
  cases explicit with
  | false => exact .none
  | true =>
    cases types with
    | nil => exact .none
    | cons t rest =>
      rw [if_pos rfl, if_pos rfl]
      refine .list (commas_joined ?_ (List.cons_ne_nil t rest))
      rw [List.forall₂_map_left_iff, List.forall₂_same]
      exact fun t ht => ⟨rfl, h t ht⟩

theorem parameter_spelled (explicit : Bool) {p : Parameter} (hn : isName p.name = true)
    (ht : Ty.parse? p.type.text = some p.type) :
    Grammar.Parameter (parameter explicit p).flat (if explicit then some p.type else none, p.name) := by
  cases explicit with
  | false => exact .bare hn
  | true =>
    have h : Grammar.Parameter (p.type.text.toList ++ ' ' :: p.name.toList) (some p.type, p.name) :=
      .typed ⟨rfl, ht⟩ hn
    simpa [parameter] using h

theorem parameters_spelled (explicit : Bool) {ps : List Parameter}
    (h : ∀ p ∈ ps, isName p.name = true ∧ Ty.parse? p.type.text = some p.type) :
    Head (parameters explicit ps).flat
      (ps.map fun p => (if explicit then some p.type else none, p.name)) := by
  have hlist (hne : ps ≠ []) :
      Head (.token "(" ++ joined ", " (ps.map (parameter explicit)) ++ .token ")" : Draft).flat
        (ps.map fun p => (if explicit then some p.type else none, p.name)) := by
    refine .list (commas_joined ?_ (by simpa using hne))
    rw [List.forall₂_map_left_iff, List.forall₂_map_right_iff, List.forall₂_same]
    exact fun p hp => parameter_spelled explicit (h p hp).1 (h p hp).2
  cases ps with
  | nil => cases explicit <;> exact .none
  | cons p rest =>
    cases explicit with
    | true => exact hlist (List.cons_ne_nil p rest)
    | false =>
      cases rest with
      | nil => exact .bare (h p List.mem_cons_self).1
      | cons q rest => exact hlist (List.cons_ne_nil p _)

end Draft

namespace Style

def term (style : Style) (e : Expr) : Term :=
  e.term style.explicitTypeNames style.explicitTypeArguments

/-- Every node is checked, and the grammar knows its words. -/
structure Speaks (style : Style) (e : Expr) : Prop where
  passes : ∀ n ∈ e.nodes, style.Passes n
  spelled : ∀ n ∈ e.nodes, n.Spelled

variable {style : Style} {e : Expr}

theorem Speaks.self (h : style.Speaks e) : style.Passes e ∧ e.Spelled :=
  ⟨h.passes e e.mem_nodes_self, h.spelled e e.mem_nodes_self⟩

theorem Speaks.of_mem_parts (h : style.Speaks e) {part : Expr} (hp : part ∈ e.parts) :
    style.Speaks part :=
  ⟨fun n hn => h.passes n (Expr.nodes_subset_of_mem_parts hp n hn),
    fun n hn => h.spelled n (Expr.nodes_subset_of_mem_parts hp n hn)⟩

theorem terms_eq (style : Style) (es : List Expr) :
    Expr.terms style.explicitTypeNames style.explicitTypeArguments es = es.map style.term :=
  Expr.terms_eq _ _ es

theorem level_sum {ts : List Term} (h : 2 ≤ ts.length) : (Term.sum ts).level = .sum := by
  have hfold (ts : List Term) (t u : Term) :
      (ts.foldl (Term.binary .add) (Term.binary .add t u)).level = .sum := by
    induction ts generalizing t u with
    | nil => rfl
    | cons v ts ih => exact ih (.binary .add t u) v
  match ts, h with
  | t :: u :: ts, _ => exact hfold ts t u

theorem two_le_length {declaring type : Ty} {method : String} {types : List Ty}
    {arguments : List Expr}
    (h : (Expr.staticCall declaring method types arguments type).isConcatenation = true) :
    2 ≤ arguments.length := by
  simp only [Expr.isConcatenation, Bool.and_eq_true, decide_eq_true_eq] at h
  exact h.1.2

/-- A node is as strong as the phrases for it are tight. -/
theorem level_term (h : e.Spelled) : (style.term e).level = (style.strengthOf e).grammarLevel := by
  cases e with
  | parameter p => rfl
  | constant value type captured =>
    obtain ⟨-, rfl⟩ := h
    simp only [term, Expr.term, Term.level, strengthOf_constant]
    split <;> rfl
  | property receiver name type => rfl
  | index receiver arguments type => rfl
  | binary op left right type => cases op <;> rfl
  | conditional test ifTrue ifFalse type => rfl
  | call receiver method declaring types arguments type => rfl
  | staticCall declaring method types arguments type =>
    have hc := h.1
    have hlen := two_le_length hc
    simp only [term, Expr.term, strengthOf_staticCall, if_pos hc]
    rw [level_sum (by rwa [terms_eq, List.length_map])]
    rfl
  | lambda parameters body type => rfl

section Places

variable (style) (h : e.Spelled)
include h

theorem groups_receiver_iff : style.groups .memberAccess .left e = true ↔
    (style.term e).level.rank < Level.primary.rank := by
  rw [level_term h]
  exact Binding.groups_memberAccess _

theorem groups_operand_iff (op : BinaryOp) (side : Side) : style.groups op.binding side e = true ↔
    (style.term e).level.rank < (op.binding.slot side).rank := by
  rw [level_term h]
  exact Binding.groups_operator op _ side

theorem groups_test_iff : style.groups .conditional .left e = true ↔
    (style.term e).level.rank < Level.orElse.rank := by
  rw [level_term h]
  exact Binding.groups_conditional _ .left

theorem groups_branch_iff : style.groups .conditional .right e = true ↔
    (style.term e).level.rank < Level.cond.rank := by
  rw [level_term h]
  exact Binding.groups_conditional _ .right

theorem groups_first_iff : style.groups .concatenation .left e = true ↔
    (style.term e).level.rank < Level.sum.rank := by
  rw [level_term h]
  exact Binding.groups_concatenation _ .left

theorem groups_later_iff : style.groups .concatenation .right e = true ↔
    (style.term e).level.rank < Level.product.rank := by
  rw [level_term h]
  exact Binding.groups_concatenation _ .right

end Places

theorem forall₂_drafts {es : List Expr}
    (h : ∀ e ∈ es, ∀ path, Derives .expr (style.draft path e).flat (style.term e))
    (path : Expr.Path) (i : Nat) :
    List.Forall₂ (fun d t => Derives .expr d.flat t) (style.drafts path i es)
      (Expr.terms style.explicitTypeNames style.explicitTypeArguments es) := by
  induction es generalizing i with
  | nil => exact .nil
  | cons e rest ih =>
    obtain ⟨he, hrest⟩ := List.forall_mem_cons.mp h
    exact .cons (he _) (ih hrest (i + 1))

/-- Further operands of a sum, behind a sum that stands already. -/
theorem derives_operands {es : List Expr}
    (h : ∀ e ∈ es, ∀ path, e.Spelled ∧
      Derives (style.term e).level (style.draft path e).flat (style.term e))
    {s : List Char} {t : Term} (hs : Derives .sum s t) (path : Expr.Path) (i : Nat) :
    Derives .sum (s ++ (Draft.joinedTail " + " (style.operands path (i + 1) es)).flat)
      ((Expr.terms style.explicitTypeNames style.explicitTypeArguments es).foldl
        (.binary .add) t) := by
  induction es generalizing s t i with
  | nil =>
    rw [operands, Draft.joinedTail, Draft.flat_empty, List.append_nil]
    exact hs
  | cons e rest ih =>
    obtain ⟨he, hrest⟩ := List.forall_mem_cons.mp h
    obtain ⟨hspelled, hd⟩ := he (.argument (i + 1) :: path)
    have hplus : BinaryOp.add ∈ Level.sum.operators := by decide
    have hoperand := Draft.derives_grouped hd (style.groups_later_iff hspelled)
    have hnext := ih hrest (.left hplus hs hoperand) (i + 1)
    simpa [operands, Draft.joinedTail, sumSide, Expr.terms, BinaryOp.symbol, term] using hnext

theorem derives_draft (h : style.Speaks e) (path : Expr.Path) :
    Derives (style.term e).level (style.draft path e).flat (style.term e) := by
  induction e using Expr.induction generalizing path with
  | parameter p => exact .atom (.name h.self.2)
  | constant value type captured =>
    obtain ⟨hplain, rfl⟩ := h.self.2
    obtain ⟨text, htext⟩ := constantText_of_passes h.self.1
    have hw := Literal.written_sourceText hplain htext
    simp only [draft, constantWord, htext, Draft.flat_text, term, Expr.term, Term.level]
    rw [Literal.Written] at hw
    split
    · rename_i hn
      rw [if_pos hn] at hw
      exact .negative hw
    · rename_i hn
      rw [if_neg hn] at hw
      exact .atom hw
  | property receiver name type ih =>
    have hr : style.Speaks receiver := h.of_mem_parts (by simp [Expr.parts])
    have hd := Draft.derives_grouped (ih hr (.receiver :: path)) (style.groups_receiver_iff hr.self.2)
    simp only [draft, Draft.flat_append, Draft.flat_token, Draft.flat_text, List.append_assoc]
    exact .member hd h.self.2
  | index receiver arguments type ihr iha =>
    have hr : style.Speaks receiver := h.of_mem_parts (by simp [Expr.parts])
    have hd := Draft.derives_grouped (ihr hr (.receiver :: path)) (style.groups_receiver_iff hr.self.2)
    have hargs := forall₂_drafts (fun a ha path =>
      (iha a ha (h.of_mem_parts (by simp [Expr.parts, ha])) path).top) path 0
    have hne : Expr.terms style.explicitTypeNames style.explicitTypeArguments arguments ≠ [] := by
      have hne : arguments ≠ [] := h.self.1
      rw [terms_eq]
      simpa using hne
    simp only [draft, Draft.flat_append, Draft.flat_token, List.append_assoc]
    exact .index hd (Draft.commas_joined hargs hne)
  | binary op left right type ihl ihr =>
    have hl : style.Speaks left := h.of_mem_parts (by simp [Expr.parts])
    have hr : style.Speaks right := h.of_mem_parts (by simp [Expr.parts])
    have dl := Draft.derives_grouped (ihl hl (.left :: path))
      (style.groups_operand_iff hl.self.2 op .left)
    have dr := Draft.derives_grouped (ihr hr (.right :: path))
      (style.groups_operand_iff hr.self.2 op .right)
    simp only [draft, Draft.flat_append, Draft.flat_token, List.append_assoc]
    exact .binary dl dr
  | conditional test ifTrue ifFalse type iht iha ihb =>
    have ht : style.Speaks test := h.of_mem_parts (by simp [Expr.parts])
    have ha : style.Speaks ifTrue := h.of_mem_parts (by simp [Expr.parts])
    have hb : style.Speaks ifFalse := h.of_mem_parts (by simp [Expr.parts])
    have dt := Draft.derives_grouped (iht ht (.test :: path)) (style.groups_test_iff ht.self.2)
    have da := Draft.derives_grouped (iha ha (.ifTrue :: path)) (style.groups_branch_iff ha.self.2)
    have db := Draft.derives_grouped (ihb hb (.ifFalse :: path)) (style.groups_branch_iff hb.self.2)
    simp only [draft, Draft.flat]
    exact .conditional dt da db
  | call receiver method declaring types arguments type ihr iha =>
    obtain ⟨hname, htypes⟩ := h.self.2
    have hr : style.Speaks receiver := h.of_mem_parts (by simp [Expr.parts])
    have hd := Draft.derives_grouped (ihr hr (.receiver :: path)) (style.groups_receiver_iff hr.self.2)
    have hg := Draft.typeArguments_spelled style.explicitTypeArguments htypes
    have hargs := forall₂_drafts (fun a ha path =>
      (iha a ha (h.of_mem_parts (by simp [Expr.parts, ha])) path).top) path 0
    simp only [draft, Draft.method, Draft.flat_append, Draft.flat_token, Draft.flat_text,
      List.append_assoc]
    cases arguments with
    | nil => exact .call hd hname hg
    | cons a rest => exact .callWith hd hname hg (Draft.commas_joined hargs (List.cons_ne_nil _ _))
  | staticCall declaring method types arguments type iha =>
    have hc := h.self.2.1
    have hargs : ∀ a ∈ arguments, ∀ path, a.Spelled ∧
        Derives (style.term a).level (style.draft path a).flat (style.term a) := fun a ha path =>
      have hs : style.Speaks a := h.of_mem_parts ha
      ⟨hs.self.2, iha a ha hs path⟩
    have hlevel : (style.term (.staticCall declaring method types arguments type)).level = .sum := by
      rw [level_term h.self.2]
      simp only [strengthOf_staticCall, if_pos hc]
      rfl
    rw [hlevel]
    simp only [draft, term, Expr.term, if_pos hc]
    cases arguments with
    | nil => exact (arguments_ne_nil hc rfl).elim
    | cons a rest =>
      obtain ⟨ha, hrest⟩ := List.forall_mem_cons.mp hargs
      obtain ⟨hspelled, hd⟩ := ha (.argument 0 :: path)
      have hfirst := Draft.derives_grouped hd (style.groups_first_iff hspelled)
      exact derives_operands hrest hfirst path 0
  | lambda parameters body type ih =>
    have hb : style.Speaks body := h.of_mem_parts (by simp [Expr.parts])
    have hd := (ih hb (.body :: path)).top
    simp only [draft, Draft.flat_append, Draft.flat_token, List.append_assoc]
    exact .lambda (Draft.parameters_spelled style.explicitTypeNames h.self.2) hd

end Style

/-! ## The text of a tree -/

theorem isWord_of_chars {p : Char → Bool} (hp : ∀ m ∈ ['\n', '\r'], p m = false) {n : String}
    {c : Char} {cs : List Char} (hn : n.toList = c :: cs) (h : ∀ d ∈ n.toList, p d = true) :
    IsWord n := by
  refine ⟨?_, ?_⟩
  · rintro rfl
    cases hn
  · intro d hd
    have hmark : d ∉ ['\n', '\r'] := not_mem_marks hp (h d hd)
    simpa using hmark

theorem isWord_of_isName {n : String} (h : isName n = true) : IsWord n := by
  obtain ⟨c, cs, hn, -⟩ := exists_cons_of_isName h
  exact isWord_of_chars (by decide) hn (isWordChar_of_isName h)

theorem isWord_of_parse? {t : Ty} (h : Ty.parse? t.text = some t) : ∀ n ∈ t.names, IsWord n := by
  intro n hn
  obtain ⟨hchars, c, cs, hcs, -⟩ := (Ty.wellFormed_of_parse? h).isTypeName n hn
  exact isWord_of_chars (by decide) hcs hchars

theorem Expr.isWord_of_spelled {n : Expr} (h : n.Spelled) : ∀ s ∈ n.names, IsWord s := by
  have htypes {types : List Ty} (h : ∀ t ∈ types, Ty.parse? t.text = some t) :
      ∀ s ∈ types.flatMap Ty.names, IsWord s := by
    intro s hs
    obtain ⟨t, ht, hs⟩ := List.mem_flatMap.mp hs
    exact isWord_of_parse? (h t ht) s hs
  cases n with
  | parameter p => simpa [names] using isWord_of_isName h
  | constant value type captured =>
    obtain ⟨-, rfl⟩ := h
    exact List.forall_mem_nil _
  | property receiver name type => simpa [names] using isWord_of_isName h
  | index receiver arguments type => exact List.forall_mem_nil _
  | binary op left right type => exact List.forall_mem_nil _
  | conditional test ifTrue ifFalse type => exact List.forall_mem_nil _
  | call receiver method declaring types arguments type =>
    exact List.forall_mem_cons.mpr ⟨isWord_of_isName h.1, htypes h.2⟩
  | staticCall declaring method types arguments type =>
    have hc := h.1
    simp only [isConcatenation, Bool.and_eq_true, beq_iff_eq, decide_eq_true_eq] at hc
    obtain ⟨⟨⟨rfl, rfl⟩, -⟩, -⟩ := hc
    exact List.forall_mem_cons.mpr ⟨by decide, htypes h.2⟩
  | lambda parameters body type =>
    intro s hs
    obtain ⟨p, hp, hs⟩ := List.mem_flatMap.mp hs
    rcases List.mem_cons.mp hs with rfl | hs
    · exact isWord_of_isName (h p hp).1
    · exact isWord_of_parse? (h p hp).2 s hs

theorem Style.Speaks.fit {style : Style} {e : Expr} (h : style.Speaks e) : style.Fit e :=
  ⟨h.passes, fun n hn => Expr.isWord_of_spelled (h.spelled n hn)⟩

theorem Style.Speaks.of_render_ok {style : Style} {e : Expr} {text : String}
    (hs : ∀ n ∈ e.nodes, n.Spelled) (h : render style e = .ok text) : style.Speaks e :=
  ⟨passes_of_render_ok h, hs⟩

theorem toList_of_render_ok {style : Style} {e : Expr} {text : String}
    (hs : ∀ n ∈ e.nodes, n.Spelled) (hw : style.lineWidth = none) (h : render style e = .ok text) :
    text.toList = (style.draft [] e).flat := by
  have hflat := render_flat (validate_of_render_ok h) (Style.Speaks.of_render_ok hs h).fit hw
  rw [h] at hflat
  rw [Except.ok.inj hflat, String.toList_ofList]

theorem render_parses_only_as_tree (style : Style) (e : Expr) (hs : ∀ n ∈ e.nodes, n.Spelled)
    (hw : style.lineWidth = none) (text : String) (h : render style e = .ok text) :
    (∀ t, Parses text t ↔ t = style.term e) ∧ (style.term e).erase = e.erased := by
  have hparses : Parses text (style.term e) := by
    unfold Parses
    rw [toList_of_render_ok hs hw h]
    exact (Style.derives_draft (.of_render_ok hs h) []).top
  refine ⟨fun t => ⟨fun ht => ht.unique hparses, ?_⟩, e.erase_term _ _⟩
  rintro rfl
  exact hparses

/-- A lambda over a concatenation whose operands need their parentheses. -/
theorem render_parses_only_as_tree_lambda :
    ∃ e : Expr, (∀ n ∈ e.nodes, n.Spelled) ∧
      render {} e = .ok "(int? x, string s) => s + (x - (x - -1)) + (s ?? \"(\").Of<int?>(() => x)" ∧
      (∀ t, Parses "(int? x, string s) => s + (x - (x - -1)) + (s ?? \"(\").Of<int?>(() => x)" t ↔
        t = Style.term {} e) ∧ (Style.term {} e).erase = e.erased := by
  refine ⟨.lambda [⟨"x", .nullable .int⟩, ⟨"s", .string⟩]
    (.staticCall .string "Concat" []
      [.parameter ⟨"s", .string⟩,
        .binary .subtract (.parameter ⟨"x", .nullable .int⟩)
          (.binary .subtract (.parameter ⟨"x", .nullable .int⟩) (.constant (.integer (-1)) .int none)
            (.nullable .int)) (.nullable .int),
        .call (.binary .coalesce (.parameter ⟨"s", .string⟩) (.constant (.string "(") .string none)
            .string) "Of" .string [.nullable .int]
          [.lambda [] (.parameter ⟨"x", .nullable .int⟩) (.function [] (.nullable .int))] .object]
      .string) (.function [.nullable .int, .string] .string), by decide, by decide +kernel, ?_⟩
  exact render_parses_only_as_tree {} _ (by decide) rfl _ (by decide +kernel)

end Legible
