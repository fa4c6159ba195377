import Legible.Proofs.Grammar.Literals
import Legible.Proofs.Grammar.Words
import Legible.Proofs.LineBreaks

/-!
# Reading back quoted literals

Inside a quoted text every backslash opens a pair and every delimiter is the second half of one. So
the end of the text is where the first bare delimiter stands, undoing the escapes gives back the
characters, and different values have different texts.
-/

namespace Legible

open Grammar (Quoted escapes lookup_escapes)

/-- Undoes the escapes between two delimiters. There is no answer for a backslash that opens no
escape, or for a bare delimiter. -/
def unescape? (delimiter : Char) : List Char → Option (List Char)
  | [] => some []
  | '\\' :: k :: s => do
    let c ← (escapes delimiter).lookup k
    let cs ← unescape? delimiter s
    return c :: cs
  | c :: s =>
    if c = '\\' ∨ c = delimiter then none
    else do
      let cs ← unescape? delimiter s
      return c :: cs

theorem unescape?_of_quoted {delimiter : Char} (hd : delimiter ∈ ['\'', '"']) {s v : List Char}
    (h : Quoted delimiter s v) : unescape? delimiter s = some v := by
  induction h with
  | nil => rfl
  | plain hc _ ih =>
    simp only [List.mem_cons, not_or] at hc
    simp [unescape?, hc.1, hc.2.1, ih]
  | escaped hc _ ih => simp [unescape?, lookup_escapes hd hc, ih]

theorem quote_injective {delimiter : Char} (hd : delimiter ∈ ['\'', '"']) {as bs : List Char}
    (h : quote delimiter as = quote delimiter bs) : as = bs := by
  have hinside := List.append_cancel_right (List.cons.inj h).2
  have ha := unescape?_of_quoted hd (quoted_flatMap delimiter as)
  have hb := unescape?_of_quoted hd (quoted_flatMap delimiter bs)
  rw [hinside, hb] at ha
  exact (Option.some.inj ha).symm

/-! ## Bare and escaped delimiters -/

def slashes (cs : List Char) : Nat := (cs.reverse.takeWhile (· == '\\')).length

/-- What comes next is escaped: of the backslashes in front of it, the last opens a pair. -/
def IsEscaped (before : List Char) : Prop := Odd (slashes before)

instance (before : List Char) : Decidable (IsEscaped before) :=
  inferInstanceAs (Decidable (Odd (slashes before)))

theorem slashes_append (as bs : List Char) :
    slashes (as ++ bs) = if slashes bs = bs.length then slashes as + bs.length else slashes bs := by
  unfold slashes
  rw [List.reverse_append, List.takeWhile_append, List.length_reverse]
  split
  · rw [List.length_append, List.length_reverse, Nat.add_comm]
  · rfl

/-- Whole pairs in front do not count. -/
theorem isEscaped_append {as : List Char} (h : ¬IsEscaped as) (bs : List Char) :
    IsEscaped (as ++ bs) ↔ IsEscaped bs := by
  unfold IsEscaped at h ⊢
  rw [slashes_append]
  split
  · rename_i hall
    rw [hall, Nat.odd_add', iff_true_right (Nat.not_odd_iff_even.mp h)]
  · rfl

theorem not_isEscaped_singleton {c : Char} (hc : c ≠ '\\') : ¬IsEscaped [c] := by
  simp [IsEscaped, slashes, hc]

theorem not_isEscaped_pair (k : Char) : ¬IsEscaped ['\\', k] := by
  by_cases hk : k = '\\'
  · subst hk
    decide
  · simp [IsEscaped, slashes, hk]

theorem not_isEscaped_of_quoted {delimiter : Char} {s v : List Char} (h : Quoted delimiter s v) :
    ¬IsEscaped s := by
  induction h with
  | nil => decide
  | @plain c s v hc _ ih =>
    simp only [List.mem_cons, not_or] at hc
    exact mt (isEscaped_append (not_isEscaped_singleton hc.1) s).mp ih
  | @escaped k c s v _ _ ih => exact mt (isEscaped_append (not_isEscaped_pair k) s).mp ih

/-- A delimiter inside is always the second half of a pair. -/
theorem isEscaped_of_quoted {delimiter : Char} (hd : delimiter ≠ '\\') {s v : List Char}
    (h : Quoted delimiter s v) {before after : List Char} (hs : s = before ++ delimiter :: after) :
    IsEscaped before := by
  induction h generalizing before with
  | nil => simp at hs
  | @plain c s v hc _ ih =>
    simp only [List.mem_cons, not_or] at hc
    cases before with
    | nil => exact absurd (List.cons.inj hs).1 hc.2.1
    | cons b before =>
      obtain ⟨rfl, hrest⟩ := List.cons.inj hs
      exact (isEscaped_append (not_isEscaped_singleton hc.1) before).mpr (ih hrest)
  | @escaped k c s v _ _ ih =>
    cases before with
    | nil => exact absurd (List.cons.inj hs).1.symm hd
    | cons b before =>
      obtain ⟨rfl, hmore⟩ := List.cons.inj hs
      cases before with
      | nil => decide
      | cons b before =>
        obtain ⟨rfl, hrest⟩ := List.cons.inj hmore
        exact (isEscaped_append (not_isEscaped_pair k) before).mpr (ih hrest)

/-- The text of a value between delimiters, as one reads it back: it stays on one line, its ends are
its only bare delimiters, and undoing the escapes between them gives the value. -/
structure Encloses (delimiter : Char) (text value : List Char) : Prop where
  oneLine : OneLine text
  bare : ∀ before after, text = before ++ delimiter :: after →
    (IsEscaped before ↔ before ≠ [] ∧ after ≠ [])
  inside : ∃ body, text = delimiter :: (body ++ [delimiter]) ∧
    unescape? delimiter body = some value

theorem ne_break_of_delimiter {delimiter : Char} (hd : delimiter ∈ ['\'', '"']) :
    delimiter ≠ '\n' ∧ delimiter ≠ '\r' := by
  constructor <;> rintro rfl <;> exact absurd hd (by decide)

theorem quote_encloses {delimiter : Char} (hd : delimiter ∈ ['\'', '"']) (cs : List Char) :
    Encloses delimiter (quote delimiter cs) cs := by
  have hquoted := quoted_flatMap delimiter cs
  have hslash : delimiter ≠ '\\' := by
    rintro rfl
    exact absurd hd (by decide)
  refine ⟨oneLine_quote (ne_break_of_delimiter hd) cs, ?_, _, rfl, unescape?_of_quoted hd hquoted⟩
  intro before after htext
  cases before with
  | nil => simp [IsEscaped, slashes]
  | cons b before =>
    obtain ⟨rfl, hbody⟩ := List.cons.inj htext
    rw [← List.singleton_append, isEscaped_append (not_isEscaped_singleton hslash) before]
    rcases List.eq_nil_or_concat after with rfl | ⟨after, last, rfl⟩
    -- the delimiter at the end
    · have hwhole := List.append_cancel_right hbody
      rw [← hwhole]
      exact iff_of_false (not_isEscaped_of_quoted hquoted) fun h => h.2 rfl
    -- a delimiter before it
    · rw [List.concat_eq_append] at hbody ⊢
      have hsplit : cs.flatMap (quotedChar delimiter) ++ [delimiter] =
          (before ++ delimiter :: after) ++ [last] := by
        rw [hbody, List.append_assoc]
        rfl
      have hbefore := isEscaped_of_quoted hslash hquoted (List.append_singleton_inj.mp hsplit).1
      exact iff_of_true hbefore ⟨by simp, by simp⟩

/-! ## Constants -/

namespace Literal

/-- The delimiter of a literal that is written in quotes, and what stands between. -/
def quoting? : Literal → Option (Char × List Char)
  | .char c => some ('\'', [c])
  | .string s => some ('"', s.toList)
  | _ => none

variable {value : Literal} {delimiter : Char} {cs : List Char}

theorem delimiter_of_quoting? (h : value.quoting? = some (delimiter, cs)) :
    delimiter ∈ ['\'', '"'] := by
  cases value <;> cases h <;> decide

theorem sourceText_of_quoting? {type : Ty} (hfits : value.Fits type)
    (h : value.quoting? = some (delimiter, cs)) (explicit : Bool) :
    value.sourceText explicit type = .ok (String.ofList (quote delimiter cs)) := by
  cases value <;> cases h
  · simp only [sourceText, show type.nonNullable = .char from hfits]
  · rcases hfits with htype | htype <;> simp only [sourceText, htype]

theorem eq_of_quoting? {other : Literal} (h : value.quoting? = some (delimiter, cs))
    (h' : other.quoting? = some (delimiter, cs)) : value = other := by
  have hsame := h.trans h'.symm
  clear h'
  cases value <;> cases h <;> cases other <;> simp_all [quoting?, String.toList_inj]

/-- The first character tells a string from a character, and the others tell which one it is. -/
theorem eq_of_quote_eq {other : Literal} {delimiter' : Char} {cs' : List Char}
    (h : value.quoting? = some (delimiter, cs)) (h' : other.quoting? = some (delimiter', cs'))
    (hquote : quote delimiter cs = quote delimiter' cs') : value = other := by
  obtain ⟨rfl, -⟩ := List.cons.inj hquote
  obtain rfl := quote_injective (delimiter_of_quoting? h) hquote
  exact eq_of_quoting? h h'

end Literal

namespace Page

/-- A word is written as it is, after the line break that may be due. -/
theorem text_extends_flush (page : Page) {s : String} (hs : IsWord s) :
    Extends page.flush (page.text s) s.toList := by
  rw [← text_flush page hs]
  exact text_extends (pending_flush page) hs.2

end Page

namespace Style

/-- A constant shows its value, unless it stands for a variable and the style hides those. -/
def ShowsValue (style : Style) (captured : Option String) : Prop :=
  captured = none ∨ style.showCaptured = true

theorem constantText_of_showsValue {style : Style} {captured : Option String}
    (h : style.ShowsValue captured) (value : Literal) (type : Ty) :
    style.constantText value type captured = value.sourceText style.explicitTypeNames type := by
  rcases h with rfl | h
  · rfl
  · cases captured with
    | none => rfl
    | some name => exact if_pos h

end Style

theorem render_constant {style : Style} (hstyle : style.validate = .ok ()) {value : Literal}
    {type : Ty} {captured : Option String} {text : String} (hline : OneLine text.toList)
    (h : style.constantText value type captured = .ok text) :
    render style (.constant value type captured) = .ok text := by
  have hpage : Page.Extends { indentUnit := style.indentUnit }
      (Page.text { indentUnit := style.indentUnit } text) text.toList := Page.text_extends rfl hline
  rw [render, hstyle, write, h]
  exact congrArg Except.ok (hpage.finish_eq.trans String.ofList_toList)

theorem render_quoted {style : Style} (hstyle : style.validate = .ok ()) {type : Ty}
    {value : Literal} (hfits : value.Fits type) {delimiter : Char} {cs : List Char}
    (h : value.quoting? = some (delimiter, cs)) {captured : Option String}
    (hshown : style.ShowsValue captured) :
    render style (.constant value type captured) = .ok (String.ofList (quote delimiter cs)) := by
  have hd := ne_break_of_delimiter (Literal.delimiter_of_quoting? h)
  apply render_constant hstyle (Literal.isWord_quote hd cs).2
  rw [Style.constantText_of_showsValue hshown]
  exact Literal.sourceText_of_quoting? hfits h style.explicitTypeNames

theorem render_hidden {style : Style} (h : style.showCaptured = false) (value : Literal) (type : Ty)
    (name : String) :
    render style (.constant value type (some name)) = render style (.parameter ⟨name, type⟩) := by
  have htext : style.constantText value type (some name) = .ok name :=
    if_neg (by simp [h])
  rw [render, render, write, write, htext]
  rfl

/-- The text of a string or a character reads back as its value and is written as it is. Constants
that show their values have the same text only if they are the same, and a constant that is hidden
is no different from a variable. -/
theorem quoted_literals_read_back :
    (∀ delimiter ∈ ['\'', '"'], ∀ cs : List Char,
      Encloses delimiter (quote delimiter cs) cs ∧
      ∀ page : Page, Page.Extends page.flush (page.text (String.ofList (quote delimiter cs)))
        (quote delimiter cs)) ∧
    (∀ (style : Style) (type : Ty) (v w : Literal) (captured captured' : Option String)
      (d d' : Char) (cs cs' : List Char), style.validate = .ok () → v.Fits type → w.Fits type →
      v.quoting? = some (d, cs) → w.quoting? = some (d', cs') →
      style.ShowsValue captured → style.ShowsValue captured' →
      let a := String.ofList (quote d cs)
      let b := String.ofList (quote d' cs')
      render style (.constant v type captured) = .ok a ∧
        render style (.constant w type captured') = .ok b ∧ (v ≠ w → a ≠ b)) ∧
    ∀ (style : Style) (value : Literal) (type : Ty) (name : String), style.showCaptured = false →
      render style (.constant value type (some name)) = render style (.parameter ⟨name, type⟩) := by
  refine ⟨?_, ?_, fun style value type name h => render_hidden h value type name⟩
  · intro delimiter hd cs
    refine ⟨quote_encloses hd cs, fun page => ?_⟩
    have hword := Literal.isWord_quote (ne_break_of_delimiter hd) cs
    simpa using page.text_extends_flush hword
  · intro style type v w captured captured' d d' cs cs' hstyle hv hw hcs hcs' hc hc' a b
    refine ⟨render_quoted hstyle hv hcs hc, render_quoted hstyle hw hcs' hc', ?_⟩
    intro hne hab
    exact hne (Literal.eq_of_quote_eq hcs hcs' (String.ofList_injective hab))

/-- A backslash and a quotation mark, followed by a line break or by a letter. -/
theorem quoted_literals_read_back_backslash :
    Encloses '"' ['"', '\\', '\\', '\\', '"', '\\', 'n', '"'] ['\\', '"', '\n'] ∧
    ∃ a b, render {} (.constant (.string "\\\"\n") .object none) = .ok a ∧
      render {} (.constant (.string "\\\"n") .object (some "x")) = .ok b ∧ a ≠ b := by
  obtain ⟨hquote, hrender, -⟩ := quoted_literals_read_back
  refine ⟨(hquote '"' (by decide) ['\\', '"', '\n']).1, ?_⟩
  obtain ⟨ha, hb, hne⟩ := hrender {} .object (.string "\\\"\n") (.string "\\\"n") none (some "x")
    '"' '"' _ _ rfl (.inr rfl) (.inr rfl) rfl rfl (.inl rfl) (.inr rfl)
  exact ⟨_, _, ha, hb, hne (by simp)⟩

/-- Two values of one variable, which is shown by its name. -/
theorem hidden_constants_render_alike :
    Literal.string "a" ≠ .string "b" ∧
      render { showCaptured := false } (.constant (.string "a") .string (some "x")) = .ok "x" ∧
      render { showCaptured := false } (.constant (.string "b") .string (some "x")) = .ok "x" := by
  exact ⟨by simp, rfl, rfl⟩

end Legible
