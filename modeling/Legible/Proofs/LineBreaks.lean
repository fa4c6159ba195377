import Legible.Proofs.Faults
import Legible.Proofs.LiteralText
import Legible.Proofs.Places
import Legible.Proofs.TypeText

/-!
# Line breaks change the layout only

For a tree whose names are words, the text under a line width is one of the layouts of the tree's
draft, and the text without one is the layout in which nothing is broken.
-/

namespace Legible

namespace Expr

def names : Expr → List String
  | .parameter p => [p.name]
  | .constant _ _ captured => captured.toList
  | .property _ name _ => [name]
  | .index _ _ _ => []
  | .binary _ _ _ _ => []
  | .conditional _ _ _ _ => []
  | .call _ method _ types _ _ => method :: types.flatMap Ty.names
  | .staticCall declaring method types _ _ => method :: (declaring.names ++ types.flatMap Ty.names)
  | .lambda parameters _ _ => parameters.flatMap fun p => p.name :: p.type.names

def Worded (e : Expr) : Prop := ∀ n ∈ e.nodes, ∀ s ∈ n.names, IsWord s

instance (e : Expr) : Decidable e.Worded :=
  inferInstanceAs (Decidable (∀ n ∈ e.nodes, ∀ s ∈ n.names, IsWord s))

theorem Worded.self {e : Expr} (h : e.Worded) : ∀ s ∈ e.names, IsWord s := h e e.mem_nodes_self

theorem Worded.of_mem_parts {e part : Expr} (h : e.Worded) (hp : part ∈ e.parts) : part.Worded :=
  fun n hn => h n (nodes_subset_of_mem_parts hp n hn)

end Expr

namespace Draft

theorem writes_grouped {d : Draft} (h : d.Writes) (parentheses : Bool) :
    (grouped parentheses d).Writes := by
  cases parentheses with
  | false => exact h
  | true => trivial

theorem clean_grouped {d : Draft} (h : d.Clean) (parentheses : Bool) :
    (grouped parentheses d).Clean := by
  cases parentheses <;> exact h

theorem clean_empty : empty.Clean := OneLine.nil

theorem clean_joinedTail {separator : String} (hs : OneLine separator.toList) {ds : List Draft}
    (h : ∀ d ∈ ds, d.Clean) : (joinedTail separator ds).Clean := by
  induction ds with
  | nil => exact clean_empty
  | cons d rest ih =>
    obtain ⟨hd, hrest⟩ := List.forall_mem_cons.mp h
    exact ⟨⟨hs, hd⟩, ih hrest⟩

theorem clean_joined {separator : String} (hs : OneLine separator.toList) {ds : List Draft}
    (h : ∀ d ∈ ds, d.Clean) : (joined separator ds).Clean := by
  cases ds with
  | nil => exact clean_empty
  | cons d rest =>
    obtain ⟨hd, hrest⟩ := List.forall_mem_cons.mp h
    exact ⟨hd, clean_joinedTail hs hrest⟩

theorem clean_parameter {p : Parameter} (h : ∀ n ∈ p.name :: p.type.names, IsWord n)
    (explicit : Bool) : (parameter explicit p).Clean := by
  obtain ⟨hn, ht⟩ := List.forall_mem_cons.mp h
  cases explicit with
  | false => exact hn.2
  | true => exact ⟨⟨Ty.oneLine_text ht, (by decide : OneLine " ".toList)⟩, hn.2⟩

theorem clean_parameters {ps : List Parameter}
    (h : ∀ p ∈ ps, ∀ n ∈ p.name :: p.type.names, IsWord n) (explicit : Bool) :
    (parameters explicit ps).Clean := by
  have hlist : (Draft.token "(" ++ joined ", " (ps.map (parameter explicit)) ++ .token ")").Clean := by
    refine ⟨⟨(by decide : OneLine "(".toList), clean_joined (by decide) ?_⟩,
      (by decide : OneLine ")".toList)⟩
    intro d hd
    obtain ⟨p, hp, rfl⟩ := List.mem_map.mp hd
    exact clean_parameter (h p hp) explicit
  unfold parameters
  split
  · exact (h _ List.mem_cons_self _ List.mem_cons_self).2
  · exact hlist

theorem clean_typeArguments {ts : List Ty} (h : ∀ t ∈ ts, ∀ n ∈ t.names, IsWord n) :
    (typeArguments ts).Clean := by
  cases ts with
  | nil => exact clean_empty
  | cons t rest =>
    refine ⟨⟨(by decide : OneLine "<".toList), clean_joined (by decide) ?_⟩,
      (by decide : OneLine ">".toList)⟩
    intro d hd
    obtain ⟨u, hu, rfl⟩ := List.mem_map.mp hd
    exact Ty.oneLine_text (h u hu)

theorem clean_method {name : String} {types : List Ty}
    (h : ∀ n ∈ name :: types.flatMap Ty.names, IsWord n) (explicit : Bool) :
    (method explicit name types).Clean := by
  obtain ⟨hn, ht⟩ := List.forall_mem_cons.mp h
  refine ⟨⟨(by decide : OneLine ".".toList), hn.2⟩, ?_⟩
  cases explicit with
  | false => exact clean_empty
  | true => exact clean_typeArguments fun t htt n hn => ht n (List.mem_flatMap.mpr ⟨t, htt, hn⟩)

end Draft

namespace Style

theorem constantWord_isWord {style : Style} {value : Literal} {type : Ty} {captured : Option String}
    (hc : ∀ s ∈ captured.toList, IsWord s)
    (hp : style.Passes (.constant value type captured)) :
    IsWord (style.constantWord value type captured) := by
  obtain ⟨text, h⟩ := constantText_of_passes hp
  rw [constantWord, h]
  unfold constantText at h
  split at h
  · split at h
    · exact Literal.sourceText_isWord h
    · cases h
      exact hc _ (by simp)
  · exact Literal.sourceText_isWord h

theorem mem_drafts {style : Style} {path : Expr.Path} {i : Nat} {es : List Expr} {d : Draft}
    (h : d ∈ style.drafts path i es) : ∃ e ∈ es, ∃ j, d = style.draft (.argument j :: path) e := by
  induction es generalizing i with
  | nil => cases h
  | cons e rest ih =>
    rcases List.mem_cons.mp h with rfl | h
    · exact ⟨e, List.mem_cons_self, i, rfl⟩
    · obtain ⟨a, ha, j, hd⟩ := ih h
      exact ⟨a, List.mem_cons_of_mem e ha, j, hd⟩

theorem mem_operands {style : Style} {path : Expr.Path} {i : Nat} {es : List Expr} {d : Draft}
    (h : d ∈ style.operands path i es) :
    ∃ e ∈ es, ∃ j parentheses, d = .grouped parentheses (style.draft (.argument j :: path) e) := by
  induction es generalizing i with
  | nil => cases h
  | cons e rest ih =>
    rcases List.mem_cons.mp h with rfl | h
    · exact ⟨e, List.mem_cons_self, i, _, rfl⟩
    · obtain ⟨a, ha, j, parentheses, hd⟩ := ih h
      exact ⟨a, List.mem_cons_of_mem e ha, j, parentheses, hd⟩

structure Fit (style : Style) (e : Expr) : Prop where
  passes : ∀ n ∈ e.nodes, style.Passes n
  worded : e.Worded

theorem Fit.of_mem_parts {style : Style} {e part : Expr} (h : style.Fit e) (hp : part ∈ e.parts) :
    style.Fit part :=
  ⟨fun n hn => h.passes n (Expr.nodes_subset_of_mem_parts hp n hn), h.worded.of_mem_parts hp⟩

section Lists

variable {style : Style} {es : List Expr}
  (h : ∀ e ∈ es, ∀ path, (style.draft path e).Clean ∧ (style.draft path e).Writes)
include h

theorem drafts_clean (path : Expr.Path) (i : Nat) :
    (Draft.joined ", " (style.drafts path i es)).Clean := by
  apply Draft.clean_joined (by decide)
  intro d hd
  obtain ⟨e, he, j, rfl⟩ := mem_drafts hd
  exact (h e he _).1

theorem operands_clean (path : Expr.Path) (i : Nat) :
    (Draft.joined " + " (style.operands path i es)).Clean := by
  apply Draft.clean_joined (by decide)
  intro d hd
  obtain ⟨e, he, j, parentheses, rfl⟩ := mem_operands hd
  exact Draft.clean_grouped (h e he _).1 parentheses

theorem operands_writes (hes : es ≠ []) (path : Expr.Path) (i : Nat) :
    (Draft.joined " + " (style.operands path i es)).Writes := by
  cases es with
  | nil => exact (hes rfl).elim
  | cons e rest => exact .inl (Draft.writes_grouped (h e List.mem_cons_self _).2 _)

end Lists

theorem oneLine_symbol (op : BinaryOp) : OneLine op.symbol.toList := by
  cases op <;> decide

theorem arguments_ne_nil {declaring type : Ty} {method : String} {types : List Ty}
    {arguments : List Expr}
    (h : (Expr.staticCall declaring method types arguments type).isConcatenation = true) :
    arguments ≠ [] := by
  rintro rfl
  simp [Expr.isConcatenation] at h

theorem draft_clean_and_writes {style : Style} {e : Expr} (h : style.Fit e) (path : Expr.Path) :
    (style.draft path e).Clean ∧ (style.draft path e).Writes := by
  have hself := h.worded.self
  induction e using Expr.induction generalizing path with
  | parameter p =>
    have hp : IsWord p.name := hself _ List.mem_cons_self
    exact ⟨hp.2, hp.1⟩
  | constant value type captured =>
    have hp := constantWord_isWord hself (h.passes _ (Expr.mem_nodes_self _))
    exact ⟨hp.2, hp.1⟩
  | property receiver name type ih =>
    have hr : style.Fit receiver := h.of_mem_parts (by simp [Expr.parts])
    have hname : IsWord name := hself _ List.mem_cons_self
    have hd := Draft.clean_grouped (ih hr (.receiver :: path) hr.worded.self).1
    exact ⟨⟨⟨hd _, (by decide : OneLine ".".toList)⟩, hname.2⟩, .inr hname.1⟩
  | index receiver arguments type ihr iha =>
    have hr : style.Fit receiver := h.of_mem_parts (by simp [Expr.parts])
    have hd := Draft.clean_grouped (ihr hr (.receiver :: path) hr.worded.self).1
    have ha := drafts_clean (fun a ha path =>
      have hf : style.Fit a := h.of_mem_parts (by simp [Expr.parts, ha])
      iha a ha hf path hf.worded.self) path 0
    exact ⟨⟨⟨⟨hd _, (by decide : OneLine "[".toList)⟩, ha⟩, (by decide : OneLine "]".toList)⟩,
      .inr (by decide : "]" ≠ "")⟩
  | binary op left right type ihl ihr =>
    have hl : style.Fit left := h.of_mem_parts (by simp [Expr.parts])
    have hr : style.Fit right := h.of_mem_parts (by simp [Expr.parts])
    have dl := Draft.clean_grouped (ihl hl (.left :: path) hl.worded.self).1
    have dr := ihr hr (.right :: path) hr.worded.self
    exact ⟨⟨⟨⟨⟨dl _, (by decide : OneLine " ".toList)⟩, oneLine_symbol op⟩,
      (by decide : OneLine " ".toList)⟩, Draft.clean_grouped dr.1 _⟩,
      .inr (Draft.writes_grouped dr.2 _)⟩
  | conditional test ifTrue ifFalse type iht iha ihb =>
    have ht : style.Fit test := h.of_mem_parts (by simp [Expr.parts])
    have ha : style.Fit ifTrue := h.of_mem_parts (by simp [Expr.parts])
    have hb : style.Fit ifFalse := h.of_mem_parts (by simp [Expr.parts])
    have dt := iht ht (.test :: path) ht.worded.self
    have da := iha ha (.ifTrue :: path) ha.worded.self
    have db := ihb hb (.ifFalse :: path) hb.worded.self
    exact ⟨⟨Draft.clean_grouped dt.1 _, Draft.writes_grouped dt.2 _, Draft.clean_grouped da.1 _,
      Draft.clean_grouped db.1 _⟩, trivial⟩
  | call receiver method declaring types arguments type ihr iha =>
    have hr : style.Fit receiver := h.of_mem_parts (by simp [Expr.parts])
    have hd := Draft.clean_grouped (ihr hr (.receiver :: path) hr.worded.self).1
    have ha := drafts_clean (fun a ha path =>
      have hf : style.Fit a := h.of_mem_parts (by simp [Expr.parts, ha])
      iha a ha hf path hf.worded.self) path 0
    have hm := Draft.clean_method hself style.explicitTypeArguments
    exact ⟨⟨⟨⟨⟨hd _, hm⟩, (by decide : OneLine "(".toList)⟩, ha⟩, (by decide : OneLine ")".toList)⟩,
      .inr (by decide : ")" ≠ "")⟩
  | staticCall declaring method types arguments type iha =>
    have hargs := fun a (ha : a ∈ arguments) path =>
      have hf : style.Fit a := h.of_mem_parts ha
      iha a ha hf path hf.worded.self
    simp only [draft]
    split
    · rename_i hc
      exact ⟨operands_clean hargs path 0, operands_writes hargs (arguments_ne_nil hc) path 0⟩
    · have hnames : ∀ n ∈ method :: types.flatMap Ty.names, IsWord n := by
        intro n hn
        apply hself
        rcases List.mem_cons.mp hn with rfl | hn
        · exact List.mem_cons_self
        · exact List.mem_cons_of_mem _ (List.mem_append_right _ hn)
      have hm := Draft.clean_method hnames style.explicitTypeArguments
      have ht := Ty.oneLine_text fun n hn =>
        hself n (List.mem_cons_of_mem _ (List.mem_append_left _ hn))
      exact ⟨⟨⟨⟨⟨ht, hm⟩, (by decide : OneLine "(".toList)⟩, drafts_clean hargs path 0⟩,
        (by decide : OneLine ")".toList)⟩, .inr (by decide : ")" ≠ "")⟩
  | lambda parameters body type ih =>
    have hb : style.Fit body := h.of_mem_parts (by simp [Expr.parts])
    have db := ih hb (.body :: path) hb.worded.self
    have hps := Draft.clean_parameters (fun p hp n hn =>
      hself n (List.mem_flatMap.mpr ⟨p, hp, hn⟩)) style.explicitTypeNames
    exact ⟨⟨⟨hps, (by decide : OneLine " => ".toList)⟩, db.1⟩, .inr db.2⟩

end Style

theorem Style.validate_eq_ok_iff (style : Style) :
    style.validate = .ok () ↔
      style.indentUnit ≠ "" ∧ (style.indentUnit.toList.all fun c => c == ' ' || c == '\t') = true ∧
        style.lineWidth ≠ some 0 := by
  unfold Style.validate
  by_cases he : style.indentUnit = ""
  · simp [he]
  · rw [if_neg he]
    cases style.indentUnit.toList.all fun c => c == ' ' || c == '\t' with
    | false => simp
    | true => by_cases hw : style.lineWidth = some 0 <;> simp [he, hw]

theorem Style.validate_flat (style : Style) (h : style.validate = .ok ()) :
    style.flat.validate = .ok () := by
  rw [Style.validate_eq_ok_iff] at h ⊢
  exact ⟨h.1, h.2.1, nofun⟩

theorem validate_of_render_ok {style : Style} {e : Expr} {text : String}
    (h : render style e = .ok text) : style.validate = .ok () := by
  cases hv : style.validate with
  | ok _ => rfl
  | error fault =>
    rw [render_of_invalid hv] at h
    cases h

theorem passes_of_render_ok {style : Style} {e : Expr} {text : String}
    (h : render style e = .ok text) : ∀ n ∈ e.nodes, style.Passes n := by
  have hv := validate_of_render_ok h
  rw [render_eq hv] at h
  rw [← Style.firstFault?_eq_none_iff_passes]
  exact (exists_orFault_eq_ok_iff _ _).mp ⟨text, h⟩

/-- With a valid style the text of a checked tree is what its draft leaves on an empty page. -/
theorem render_of_passes {style : Style} {e : Expr} (hv : style.validate = .ok ())
    (h : ∀ n ∈ e.nodes, style.Passes n) :
    render style e = .ok ((style.draft [] e).put style.indentUnit style.lineWidth
      { indentUnit := style.indentUnit }).finish := by
  rw [render_eq hv, (style.firstFault?_eq_none_iff_passes e.nodes).mpr h]
  rfl

theorem Page.Extends.finish_eq {unit : String} {later : Page} {cs : List Char}
    (h : Page.Extends { indentUnit := unit } later cs) : later.finish = String.ofList cs := by
  rw [← String.ofList_toList (s := later.finish)]
  exact congrArg String.ofList h.buffer

theorem render_flat {style : Style} {e : Expr} (hv : style.validate = .ok ()) (h : style.Fit e)
    (hw : style.lineWidth = none) :
    render style e = .ok (String.ofList (style.draft [] e).flat) := by
  have hstart : ({ indentUnit := style.indentUnit } : Page).pending = false := rfl
  have hd := Draft.put_flat_extends (style.draft_clean_and_writes h []).1 style.indentUnit hstart
  rw [render_of_passes hv h.passes, hw, hd.finish_eq]

theorem render_breaks_only_conditionals (style : Style) (e : Expr) (hw : e.Worded) (width : Nat)
    (text : String) (h : render { style with lineWidth := some width } e = .ok text) :
    ∃ B : Finset Expr.Path,
      (∀ p ∈ B, ∃ n, e.at? p = some n ∧ n.isConditional = true) ∧
      render style.flat e =
        .ok (String.ofList ((style.draft [] e).lay style.indentUnit ∅ 0)) ∧
      text = String.ofList ((style.draft [] e).lay style.indentUnit B 0) := by
  have hdraft : { style with lineWidth := some width }.draft [] e = style.draft [] e := by
    apply Style.draft_congr <;> rfl
  have hv := validate_of_render_ok h
  have hpasses := passes_of_render_ok h
  rw [render_of_passes hv hpasses, hdraft] at h
  have hvf : style.flat.validate = .ok () :=
    Style.validate_flat { style with lineWidth := some width } hv
  have hfit : style.flat.Fit e := by
    refine ⟨?_, hw⟩
    rw [← Style.firstFault?_eq_none_iff_passes] at hpasses ⊢
    exact (Style.firstFault?_congr rfl e.nodes).trans hpasses
  obtain ⟨hclean, -⟩ := style.flat.draft_clean_and_writes hfit []
  have hflat := render_flat hvf hfit rfl
  rw [style.draft_flat] at hclean hflat
  have hstart : ({ indentUnit := style.indentUnit } : Page).pending = false := rfl
  obtain ⟨B, hB, hext⟩ := Draft.put_extends hclean (style.nodup_labels e []) (some width) hstart rfl
  refine ⟨B, ?_, ?_, ?_⟩
  · intro p hp
    obtain ⟨below, hbelow, hn⟩ := Style.mem_labels (hB p hp)
    rw [List.append_nil] at hbelow
    exact hbelow ▸ hn
  · rw [Draft.lay_empty]
    exact hflat
  · exact (Except.ok.inj h).symm.trans hext.finish_eq

/-- A broken chain whose first test holds a conditional of its own. -/
theorem render_breaks_only_conditionals_chain :
    ∃ e : Expr, e.Worded ∧
      render { lineWidth := some 9 } e =
        .ok "(a\n  ? b\n  : c)\n  ? 1\n  : \"long\" == s\n    ? 2\n    : 3" ∧
      ∃ B : Finset Expr.Path,
        (∀ p ∈ B, ∃ n, e.at? p = some n ∧ n.isConditional = true) ∧
        render { lineWidth := none } e =
          .ok (String.ofList ((Style.draft { lineWidth := none } [] e).lay "  " ∅ 0)) ∧
        "(a\n  ? b\n  : c)\n  ? 1\n  : \"long\" == s\n    ? 2\n    : 3" =
          String.ofList ((Style.draft { lineWidth := none } [] e).lay "  " B 0) := by
  refine ⟨.conditional
    (.conditional (.parameter ⟨"a", .bool⟩) (.parameter ⟨"b", .bool⟩) (.parameter ⟨"c", .bool⟩) .bool)
    (.constant (.integer 1) .int none)
    (.conditional
      (.binary .equal (.constant (.string "long") .string none) (.parameter ⟨"s", .string⟩) .bool)
      (.constant (.integer 2) .int none) (.constant (.integer 3) .int none) .int) .int,
    by decide, by decide, ?_⟩
  exact render_breaks_only_conditionals { lineWidth := none } _ (by decide) 9 _ (by decide)

end Legible
