import Legible.Proofs.LineBreaks

/-!
# Trees that fit their line

Every conditional measures itself on a line of its own and compares the result with the column it
has reached. Columns add up along a line, so where a whole tree fits, each conditional in it fits as
well, and none is broken.
-/

namespace Legible

namespace Page

/-- The characters can be written without a line break and stay within the width, if there is one. -/
structure Room (width : Option Nat) (page : Page) (cs : List Char) : Prop where
  settled : page.pending = false
  fits : ∀ w ∈ width, page.column + Text.width cs ≤ w

theorem Room.left {width : Option Nat} {page : Page} {as bs : List Char}
    (h : Room width page (as ++ bs)) : Room width page as := by
  refine ⟨h.settled, fun w hw => ?_⟩
  have := h.fits w hw
  rw [Text.width_append] at this
  omega

theorem Room.right {width : Option Nat} {page : Page} {as bs : List Char}
    (h : Room width page (as ++ bs)) : Room width (page.extend as) bs := by
  refine ⟨h.settled, fun w hw => ?_⟩
  have := h.fits w hw
  rw [Text.width_append] at this
  change page.column + Text.width as + Text.width bs ≤ w
  omega

/-- What is written where there is room for the characters is these characters and nothing else. -/
def Adds (width : Option Nat) (put : Page → Page) (cs : List Char) : Prop :=
  ∀ page, Room width page cs → put page = page.extend cs

theorem Adds.trans {width : Option Nat} {f g : Page → Page} {as bs : List Char}
    (hf : Adds width f as) (hg : Adds width g bs) :
    Adds width (fun page => g (f page)) (as ++ bs) := by
  intro page hroom
  change g (f page) = _
  rw [hf page hroom.left, hg _ hroom.right, extend_extend]

theorem adds_token (width : Option Nat) {t : String} (ht : Text.Plain t) :
    Adds width (fun page => page.token t) t.toList :=
  fun _ hroom => token_eq_extend hroom.settled ht

theorem adds_text (width : Option Nat) {s : String} (hs : OneLine s.toList) :
    Adds width (fun page => page.text s) s.toList :=
  fun _ hroom => text_eq_extend hroom.settled hs

end Page

namespace Draft

def Narrow : Draft → Prop
  | .token t => Text.Plain t
  | .text _ => True
  | .append a b => Narrow a ∧ Narrow b
  | .group d => Narrow d
  | .choice _ test ifTrue ifFalse => Narrow test ∧ Narrow ifTrue ∧ Narrow ifFalse

open Page in
theorem adds_put {d : Draft} (h : d.Clean) (hn : d.Narrow) (unit : String) (width : Option Nat) :
    Adds width (d.put unit width) d.flat := by
  induction d generalizing width with
  | token t => exact adds_token width hn
  | text s => exact adds_text width h
  | append a b iha ihb => exact (iha h.1 hn.1 width).trans (ihb h.2 hn.2 width)
  | group d ih =>
    exact ((adds_token width (t := "(") (by decide)).trans (ih h hn width)).trans
      (adds_token width (t := ")") (by decide))
  | choice node test ifTrue ifFalse iht iha ihb =>
    obtain ⟨ht, -, ha, hb⟩ := h
    obtain ⟨hnt, hna, hnb⟩ := hn
    have line (width : Option Nat) :
        Adds width (putFlat (put unit width test) (put unit width ifTrue) (put unit width ifFalse))
          (flat (.choice node test ifTrue ifFalse)) := by
      have htest := (iht ht hnt width).trans (adds_token width (t := " ? ") (by decide))
      have htrue := (iha ha hna width).trans (adds_token width (t := " : ") (by decide))
      have all := (htest.trans htrue).trans (ihb hb hnb width)
      simp only [List.append_assoc] at all
      exact all
    cases width with
    | none => exact line none
    | some w =>
      intro page hroom
      -- on its own line the conditional takes as many columns as it would take here
      have hmeasured := line none { indentUnit := unit } ⟨rfl, nofun⟩
      have hfits := hroom.fits w rfl
      simp only [put, hmeasured]
      rw [if_neg]
      · exact line (some w) page hroom
      · change ¬ w < page.column + (0 + Text.width _)
        omega

theorem narrow_grouped {d : Draft} (h : d.Narrow) (parentheses : Bool) :
    (grouped parentheses d).Narrow := by
  cases parentheses <;> exact h

theorem narrow_joinedTail {separator : String} (hs : Text.Plain separator) {ds : List Draft}
    (h : ∀ d ∈ ds, d.Narrow) : (joinedTail separator ds).Narrow := by
  induction ds with
  | nil => trivial
  | cons d rest ih =>
    obtain ⟨hd, hrest⟩ := List.forall_mem_cons.mp h
    exact ⟨⟨hs, hd⟩, ih hrest⟩

theorem narrow_joined {separator : String} (hs : Text.Plain separator) {ds : List Draft}
    (h : ∀ d ∈ ds, d.Narrow) : (joined separator ds).Narrow := by
  cases ds with
  | nil => trivial
  | cons d rest =>
    obtain ⟨hd, hrest⟩ := List.forall_mem_cons.mp h
    exact ⟨hd, narrow_joinedTail hs hrest⟩

theorem narrow_parameters (explicit : Bool) (ps : List Parameter) :
    (parameters explicit ps).Narrow := by
  unfold parameters
  split
  · trivial
  · refine ⟨⟨(by decide : Text.Plain "("), narrow_joined (by decide) ?_⟩,
      (by decide : Text.Plain ")")⟩
    intro d hd
    obtain ⟨p, -, rfl⟩ := List.mem_map.mp hd
    cases explicit with
    | false => trivial
    | true => exact ⟨⟨trivial, (by decide : Text.Plain " ")⟩, trivial⟩

theorem narrow_method (explicit : Bool) (name : String) (types : List Ty) :
    (method explicit name types).Narrow := by
  refine ⟨⟨(by decide : Text.Plain "."), trivial⟩, ?_⟩
  cases explicit with
  | false => trivial
  | true =>
    cases types with
    | nil => trivial
    | cons t rest =>
      refine ⟨⟨(by decide : Text.Plain "<"), narrow_joined (by decide) ?_⟩,
        (by decide : Text.Plain ">")⟩
      intro d hd
      obtain ⟨u, -, rfl⟩ := List.mem_map.mp hd
      trivial

end Draft

namespace Style

theorem plain_symbol (op : BinaryOp) : Text.Plain op.symbol := by
  cases op <;> decide

section Lists

variable {style : Style} {es : List Expr} (h : ∀ e ∈ es, ∀ path, (style.draft path e).Narrow)
include h

theorem narrow_drafts (path : Expr.Path) (i : Nat) :
    (Draft.joined ", " (style.drafts path i es)).Narrow := by
  apply Draft.narrow_joined (by decide)
  intro d hd
  obtain ⟨e, he, j, rfl⟩ := mem_drafts hd
  exact h e he _

theorem narrow_operands (path : Expr.Path) (i : Nat) :
    (Draft.joined " + " (style.operands path i es)).Narrow := by
  apply Draft.narrow_joined (by decide)
  intro d hd
  obtain ⟨e, he, j, parentheses, rfl⟩ := mem_operands hd
  exact Draft.narrow_grouped (h e he _) parentheses

end Lists

theorem narrow_draft (style : Style) (e : Expr) (path : Expr.Path) :
    (style.draft path e).Narrow := by
  have hopen : Text.Plain "(" := by decide
  have hclose : Text.Plain ")" := by decide
  induction e using Expr.induction generalizing path with
  | parameter p => trivial
  | constant value type captured => trivial
  | property receiver name type ih =>
    exact ⟨⟨Draft.narrow_grouped (ih _) _, (by decide : Text.Plain ".")⟩, trivial⟩
  | index receiver arguments type ihr iha =>
    exact ⟨⟨⟨Draft.narrow_grouped (ihr _) _, (by decide : Text.Plain "[")⟩, narrow_drafts iha path 0⟩,
      (by decide : Text.Plain "]")⟩
  | binary op left right type ihl ihr =>
    have hblank : Text.Plain " " := by decide
    exact ⟨⟨⟨⟨Draft.narrow_grouped (ihl _) _, hblank⟩, plain_symbol op⟩, hblank⟩,
      Draft.narrow_grouped (ihr _) _⟩
  | conditional test ifTrue ifFalse type iht iha ihb =>
    exact ⟨Draft.narrow_grouped (iht _) _, Draft.narrow_grouped (iha _) _,
      Draft.narrow_grouped (ihb _) _⟩
  | call receiver method declaring types arguments type ihr iha =>
    exact ⟨⟨⟨⟨Draft.narrow_grouped (ihr _) _, Draft.narrow_method _ method types⟩, hopen⟩,
      narrow_drafts iha path 0⟩, hclose⟩
  | staticCall declaring method types arguments type iha =>
    simp only [draft]
    split
    · exact narrow_operands iha path 0
    · exact ⟨⟨⟨⟨trivial, Draft.narrow_method _ method types⟩, hopen⟩, narrow_drafts iha path 0⟩,
        hclose⟩
  | lambda parameters body type ih =>
    exact ⟨⟨Draft.narrow_parameters _ parameters, (by decide : Text.Plain " => ")⟩, ih _⟩

end Style

theorem Draft.Clean.oneLine_flat {d : Draft} (h : d.Clean) : OneLine d.flat := by
  induction d with
  | token t => exact h
  | text s => exact h
  | append a b iha ihb => exact (iha h.1).append (ihb h.2)
  | group d ih => exact .cons (by decide) ((ih h).append (by decide))
  | choice node test ifTrue ifFalse iht iha ihb =>
    obtain ⟨ht, -, ha, hb⟩ := h
    have hquestion : OneLine " ? ".toList := by decide
    have hcolon : OneLine " : ".toList := by decide
    exact (iht ht).append (hquestion.append ((iha ha).append (hcolon.append (ihb hb))))

theorem Style.Fit.of_flat {style : Style} {e : Expr} (h : style.flat.Fit e) : style.Fit e := by
  refine ⟨?_, h.worded⟩
  have hpasses := h.passes
  rw [← Style.firstFault?_eq_none_iff_passes, Style.flat_firstFault?] at hpasses
  exact (style.firstFault?_eq_none_iff_passes e.nodes).mp hpasses

theorem write_of_room {style : Style} {e : Expr} (h : style.Fit e) {page : Page}
    (hroom : page.Room style.lineWidth (style.draft [] e).flat) :
    write style e page = .ok (page.extend (style.draft [] e).flat) := by
  have hclean := (style.draft_clean_and_writes h []).1
  have hput := Draft.adds_put hclean (style.narrow_draft e []) style.indentUnit style.lineWidth
  rw [write_eq style e [], (style.firstFault?_eq_none_iff_passes e.nodes).mpr h.passes,
    hput page hroom]
  rfl

theorem fitting_tree_stays_on_its_line (style : Style) (width : Nat)
    (hv : style.validate = .ok ()) (hwidth : style.lineWidth = some width) (e : Expr)
    (he : e.Worded) (text : String) (ht : render style.flat e = .ok text) :
    '\n' ∉ text.toList ∧
    write style.flat e { indentUnit := style.indentUnit } =
      .ok { indentUnit := style.indentUnit, buffer := text, column := Text.width text.toList } ∧
    (∀ page : Page, page.pending = false → page.column + Text.width text.toList ≤ width →
      write style e page = .ok { page with
        buffer := page.buffer ++ text
        column := page.column + Text.width text.toList }) ∧
    (Text.width text.toList ≤ width → render style e = .ok text) := by
  have hflat : style.flat.Fit e := ⟨passes_of_render_ok ht, he⟩
  have htext : text.toList = (style.draft [] e).flat := by
    rw [render_flat (Style.validate_flat style hv) hflat rfl, style.draft_flat] at ht
    rw [← Except.ok.inj ht, String.toList_ofList]
  have hextend (page : Page) : page.extend (style.draft [] e).flat = { page with
      buffer := page.buffer ++ text
      column := page.column + Text.width text.toList } := by
    rw [← htext, Page.extend, String.ofList_toList]
  have hwrite (page : Page) (hp : page.pending = false)
      (hfits : page.column + Text.width text.toList ≤ width) :
      write style e page = .ok (page.extend (style.draft [] e).flat) := by
    apply write_of_room hflat.of_flat
    refine ⟨hp, ?_⟩
    rw [hwidth, ← htext]
    rintro w ⟨⟩
    exact hfits
  refine ⟨?_, ?_, ?_, ?_⟩
  · intro hmem
    rw [htext] at hmem
    exact ((style.draft_clean_and_writes hflat.of_flat []).1.oneLine_flat _ hmem).1 rfl
  · have hroom : ({ indentUnit := style.indentUnit } : Page).Room none
        (style.flat.draft [] e).flat := ⟨rfl, by simp⟩
    have hline := write_of_room hflat hroom
    rw [style.draft_flat, hextend] at hline
    simpa using hline
  · intro page hp hfits
    rw [hwrite page hp hfits, hextend]
  · intro hfits
    have hline := hwrite { indentUnit := style.indentUnit } rfl (by simpa using hfits)
    rw [render, hv, hline, hextend]
    simp [Page.finish, bind, Except.bind, pure, Except.pure]

/-- A conditional in the test of another, a wide name, and a line that is full at the end. -/
theorem fitting_tree_stays_on_its_line_full :
    ∃ (e : Expr) (text : String), e.Worded ∧
      render {} e = .ok text ∧ text = "(a ? b : c) ? 1 : 名" ∧ Text.width text.toList = 20 ∧
      write { lineWidth := some 24 } e { indentUnit := "  ", buffer := "x = ", column := 4 } =
        .ok { indentUnit := "  ", buffer := "x = (a ? b : c) ? 1 : 名", column := 24 } ∧
      render { lineWidth := some 20 } e = .ok text := by
  let e : Expr := .conditional
    (.conditional (.parameter ⟨"a", .bool⟩) (.parameter ⟨"b", .bool⟩) (.parameter ⟨"c", .bool⟩)
      .bool)
    (.constant (.integer 1) .int none) (.parameter ⟨"名", .int⟩) .int
  have he : e.Worded := by decide
  have hrender : render {} e = .ok "(a ? b : c) ? 1 : 名" := by decide +kernel
  have hwide : Text.width "(a ? b : c) ? 1 : 名".toList = 20 := by decide +kernel
  obtain ⟨-, -, hwrite, -⟩ :=
    fitting_tree_stays_on_its_line { lineWidth := some 24 } 24 (by decide) rfl e he _ hrender
  obtain ⟨-, -, -, hrenders⟩ :=
    fitting_tree_stays_on_its_line { lineWidth := some 20 } 20 (by decide) rfl e he _ hrender
  refine ⟨e, _, he, hrender, rfl, hwide, ?_, hrenders hwide.le⟩
  have := hwrite { indentUnit := "  ", buffer := "x = ", column := 4 } rfl (by rw [hwide])
  rwa [hwide] at this

end Legible
