import Legible.Json.Lexer
import Legible.Json.Printer
import Mathlib.Data.List.Forall2

/-!
# Indented JSON text reads back

The scanner cuts an indented text into the tokens that the value is made of, whatever comes after
it, and the machine puts these together to the value again, whatever is open around it. Shown for
values made of texts, arrays and objects, which is all that a report holds.
-/

namespace Legible.Json

/-- Texts in arrays and objects, at most the given number of them inside one another. -/
inductive IsTextual : Nat → Json → Prop where
  | string {n : Nat} (s : String) : IsTextual n (.string s)
  | array {n : Nat} {items : List Json} (h : ∀ j ∈ items, IsTextual n j) :
    IsTextual (n + 1) (.array items)
  | object {n : Nat} {fields : List (String × Json)} (h : ∀ f ∈ fields, IsTextual n f.2) :
    IsTextual (n + 1) (.object fields)

/-! ## Tokens of a value -/

def nameToken (s : String) : Token String Json := .atom (some s) (some (.string s))

mutual

def tokens : Json → List (Token String Json)
  | .array items =>
    .opening .square :: ([.comma].intercalate (itemTokens items) ++ [.closing .square])
  | .object fields =>
    .opening .curly :: ([.comma].intercalate (fieldTokens fields) ++ [.closing .curly])
  | .string s => [nameToken s]
  | .null => [.atom none (some .null)]
  | .bool b => [.atom none (some (.bool b))]
  | .int n => [.atom none (some (.int n))]
  | .float x => [.atom none (some (.float x))]
termination_by structural j => j

def itemTokens : List Json → List (List (Token String Json))
  | [] => []
  | item :: rest => tokens item :: itemTokens rest
termination_by structural items => items

def fieldTokens : List (String × Json) → List (List (Token String Json))
  | [] => []
  | (name, value) :: rest => (nameToken name :: .colon :: tokens value) :: fieldTokens rest
termination_by structural fields => fields

end

/-! ## Scanning -/

/-- In front of anything else, the text is cut into these tokens. -/
def Spells (cs : List Char) (ts : List (Token String Json)) : Prop :=
  ∀ found rest, scan .blank found (cs ++ rest) = scan .blank (ts.reverse ++ found) rest

theorem Spells.append {cs ds : List Char} {ts us : List (Token String Json)} (hc : Spells cs ts)
    (hd : Spells ds us) : Spells (cs ++ ds) (ts ++ us) := by
  intro found rest
  rw [List.append_assoc, hc, hd, List.reverse_append, List.append_assoc]

theorem spells_blanks {cs : List Char} (h : ∀ c ∈ cs, isJsonBlank c = true) : Spells cs [] := by
  induction cs with
  | nil => exact fun _ _ => rfl
  | cons c cs ih =>
    intro found rest
    obtain ⟨hc, hcs⟩ := List.forall_mem_cons.mp h
    have hstep : scanChar .blank c = some (.blank, []) := if_pos hc
    rw [List.cons_append, scan, hstep]
    exact ih hcs found rest

theorem Spells.intercalate {sep : List Char} {us : List (Token String Json)} (hsep : Spells sep us)
    {css : List (List Char)} {tss : List (List (Token String Json))}
    (h : List.Forall₂ Spells css tss) : Spells (sep.intercalate css) (us.intercalate tss) := by
  induction h with
  | nil => exact fun _ _ => rfl
  | cons hfirst hrest ih =>
    cases hrest with
    | nil =>
      rw [List.intercalate_singleton, List.intercalate_singleton]
      exact hfirst
    | cons hsecond hrest =>
      rw [List.intercalate_cons_cons, List.intercalate_cons_cons]
      exact (hfirst.append hsep).append ih

section Texts

variable (read : List Char) (found : List (Token String Json)) (rest : List Char)

/-- Four digits of base sixteen, of a number below the halves of pairs. -/
theorem scan_code {digits : List Char} {a b c d : Nat}
    (h : digits.map hexValue? = [some a, some b, some c, some d])
    (hlow : 16 * (16 * (16 * a + b) + c) + d < 0xD800) :
    scan (.code read none 4 0) found (digits ++ rest) =
      scan (.text (Char.ofNat (16 * (16 * (16 * a + b) + c) + d) :: read)) found rest := by
  simp only [List.map_eq_cons_iff, List.map_eq_nil_iff] at h
  obtain ⟨w, _, rfl, hw, x, _, rfl, hx, y, _, rfl, hy, z, _, rfl, hz, rfl⟩ := h
  have hclose : closeCode read none (16 * (16 * (16 * a + b) + c) + d) =
      some (.text (Char.ofNat (16 * (16 * (16 * a + b) + c) + d) :: read)) := by
    unfold closeCode
    rw [if_neg (by omega), if_neg (by omega)]
  simp [scan, scanChar, hw, hx, hy, hz, hclose]

theorem map_hexValue?_hex4 :
    ∀ n < 0x20, (hex4 n).toList.map hexValue? =
      [some 0, some 0, some (n / 16), some (n % 16)] := by
  decide +kernel

theorem scan_numericEscape {c : Char} (hc : c.toNat < 0x20) :
    scan (.text read) found (("\\u" ++ hex4 c.toNat).toList ++ rest) =
      scan (.text (c :: read)) found rest := by
  have hmark (cs : List Char) :
      scan (.text read) found ("\\u".toList ++ cs) = scan (.code read none 4 0) found cs := by
    simp [scan, scanChar]
  have hvalue : 16 * (16 * (16 * 0 + 0) + c.toNat / 16) + c.toNat % 16 = c.toNat := by omega
  have hcode := scan_code read found rest (map_hexValue?_hex4 c.toNat hc) (by omega)
  rw [hvalue, Char.ofNat_toNat] at hcode
  rw [String.toList_append, List.append_assoc, hmark, hcode]

theorem scan_quotedChar (c : Char) :
    scan (.text read) found ((quotedChar c).toList ++ rest) =
      scan (.text (c :: read)) found rest := by
  have hshort {letter : Char} (hletter : letter ≠ 'u') (h : shortEscape? letter = some c) :
      scan (.text read) found (['\\', letter] ++ rest) =
        scan (.text (c :: read)) found rest := by
    simp [scan, scanChar, hletter, h]
  have hof {n : Nat} (hn : c.toNat = n) : Char.ofNat n = c := by rw [← hn, Char.ofNat_toNat]
  unfold quotedChar
  split_ifs with hquote hslash hfeed hreturn htab hback hform hlow
  · subst hquote
    exact hshort (by decide) rfl
  · subst hslash
    exact hshort (by decide) rfl
  · subst hfeed
    exact hshort (by decide) rfl
  · subst hreturn
    exact hshort (by decide) rfl
  · subst htab
    exact hshort (by decide) rfl
  · exact hshort (by decide) (congrArg some (hof hback))
  · exact hshort (by decide) (congrArg some (hof hform))
  · exact scan_numericEscape read found rest hlow
  · have hstep : scanChar (.text read) c = some (.text (c :: read), []) := by
      simp only [scanChar, if_neg hquote, if_neg hslash, if_neg hlow]
    rw [Char.toString_eq_singleton, String.toList_singleton, List.singleton_append, scan, hstep]
    rfl

theorem scan_quotedChars (cs : List Char) :
    scan (.text read) found ((cs.flatMap fun c => (quotedChar c).toList) ++ rest) =
      scan (.text (cs.reverse ++ read)) found rest := by
  induction cs generalizing read with
  | nil => rfl
  | cons c cs ih =>
    rw [List.flatMap_cons, List.append_assoc, scan_quotedChar, ih, List.reverse_cons,
      List.append_assoc]
    rfl

end Texts

theorem spells_quoted (s : String) : Spells (quoted s).toList [nameToken s] := by
  intro found rest
  have hchars : (quoted s).toList ++ rest =
      '"' :: ((s.toList.flatMap fun c => (quotedChar c).toList) ++ '"' :: rest) := by
    simp [quoted, String.toList_join, List.flatMap_map]
  have htext : textToken (s.toList.reverse ++ []) = nameToken s := by
    simp [textToken, nameToken]
  rw [hchars]
  change scan (.text []) found _ = _
  rw [scan_quotedChars, ← htext]
  rfl

theorem spells_lineBreak (n : Nat) : Spells ('\n' :: List.replicate n ' ') [] := by
  refine spells_blanks (List.forall_mem_cons.mpr ⟨rfl, fun c hc => ?_⟩)
  rw [List.eq_of_mem_replicate hc]
  rfl

/-- The layout of a block is blank: only the brackets, the commas and the items count. -/
theorem spells_block {opening closing : String} {o c : Token String Json}
    (hopening : Spells opening.toList [o]) (hclosing : Spells closing.toList [c])
    {texts : List String} {tss : List (List (Token String Json))}
    (h : List.Forall₂ (fun text ts => Spells text.toList ts) texts tss) (depth : Nat) :
    Spells (block depth opening closing texts).toList
      (o :: ([.comma].intercalate tss ++ [c])) := by
  cases texts with
  | nil =>
    cases h
    rw [block, String.toList_append]
    exact hopening.append hclosing
  | cons text texts =>
    have hinner := spells_lineBreak (2 * depth + 2)
    have hcomma : Spells [','] [.comma] := fun _ _ => rfl
    have hitems := (hcomma.append hinner).intercalate (List.forall₂_map_left_iff.mpr h)
    have hend := (spells_lineBreak (2 * depth)).append hclosing
    have hchars : (block depth opening closing (text :: texts)).toList =
        opening.toList ++ ('\n' :: List.replicate (2 * depth + 2) ' ' ++
          (([','] ++ '\n' :: List.replicate (2 * depth + 2) ' ').intercalate
              ((text :: texts).map String.toList) ++
            ('\n' :: List.replicate (2 * depth) ' ' ++ closing.toList))) := by
      simp [block, String.toList_intercalate, List.replicate_add]
    rw [hchars]
    exact hopening.append (hinner.append (hitems.append hend))

theorem indentedItems_eq (depth : Nat) (items : List Json) :
    indentedItems depth items = items.map (indentedAt depth) := by
  induction items with
  | nil => rfl
  | cons item rest ih => rw [indentedItems, ih, List.map_cons]

theorem indentedFields_eq (depth : Nat) (fields : List (String × Json)) :
    indentedFields depth fields =
      fields.map fun f => quoted f.1 ++ ": " ++ indentedAt depth f.2 := by
  induction fields with
  | nil => rfl
  | cons f rest ih => rw [indentedFields, ih, List.map_cons]

theorem itemTokens_eq (items : List Json) : itemTokens items = items.map tokens := by
  induction items with
  | nil => rfl
  | cons item rest ih => rw [itemTokens, ih, List.map_cons]

theorem fieldTokens_eq (fields : List (String × Json)) :
    fieldTokens fields = fields.map fun f => nameToken f.1 :: .colon :: tokens f.2 := by
  induction fields with
  | nil => rfl
  | cons f rest ih => rw [fieldTokens, ih, List.map_cons]

theorem IsTextual.spells {n : Nat} {j : Json} (h : IsTextual n j) (depth : Nat) :
    Spells (indentedAt depth j).toList j.tokens := by
  induction h generalizing depth with
  | string s => exact spells_quoted s
  | @array n items _ ih =>
    have hitems : List.Forall₂ (fun text ts => Spells text.toList ts)
        (items.map (indentedAt (depth + 1))) (items.map tokens) := by
      rw [List.forall₂_map_left_iff, List.forall₂_map_right_iff, List.forall₂_same]
      exact fun j hj => ih j hj (depth + 1)
    rw [indentedAt, tokens, indentedItems_eq, itemTokens_eq]
    exact spells_block (fun _ _ => rfl) (fun _ _ => rfl) hitems depth
  | @object n fields _ ih =>
    have hcolon : Spells [':', ' '] [.colon] := fun _ _ => rfl
    have hfields : List.Forall₂ (fun text ts => Spells text.toList ts)
        (fields.map fun f => quoted f.1 ++ ": " ++ indentedAt (depth + 1) f.2)
        (fields.map fun f => nameToken f.1 :: .colon :: tokens f.2) := by
      rw [List.forall₂_map_left_iff, List.forall₂_map_right_iff, List.forall₂_same]
      intro f hf
      rw [String.toList_append, String.toList_append]
      exact ((spells_quoted f.1).append hcolon).append (ih f hf (depth + 1))
    rw [indentedAt, tokens, indentedFields_eq, fieldTokens_eq]
    exact spells_block (fun _ _ => rfl) (fun _ _ => rfl) hfields depth

/-! ## Assembling -/

/-- With room for the given number of containers, the tokens come to the value. -/
def Builds (n : Nat) (ts : List (Token String Json)) (j : Json) : Prop :=
  ∀ stack close rest, stack.length + n ≤ 127 →
    shape.assemble stack (.value close) (ts ++ rest) = shape.assemble stack (.after j) rest

theorem assemble_items {n : Nat} {items : List Json} (hitems : ∀ j ∈ items, Builds n j.tokens j)
    (hne : items ≠ []) {stack : List (Frame String Json)} (hroom : stack.length + 1 + n ≤ 127)
    (close : Bool) (done : List Json) (rest : List (Token String Json)) :
    shape.assemble (.array done :: stack) (.value close)
        ([.comma].intercalate (items.map tokens) ++ .closing .square :: rest) =
      shape.assemble stack (.after (.array (done.reverse ++ items))) rest := by
  induction items generalizing close done with
  | nil => exact (hne rfl).elim
  | cons j items ih =>
    obtain ⟨hj, hitems⟩ := List.forall_mem_cons.mp hitems
    have hvalue (rest : List (Token String Json)) :
        shape.assemble (.array done :: stack) (.value close) (tokens j ++ rest) =
          shape.assemble (.array done :: stack) (.after j) rest :=
      hj (.array done :: stack) close rest hroom
    cases items with
    | nil =>
      rw [List.map_singleton, List.intercalate_singleton, hvalue]
      change shape.assemble stack (.after (.array (j :: done).reverse)) rest = _
      rw [List.reverse_cons]
    | cons next items =>
      rw [List.map_cons, List.map_cons, List.intercalate_cons_cons, List.append_assoc,
        List.append_assoc, hvalue]
      have hrest := ih hitems (List.cons_ne_nil next items) false (j :: done)
      rw [List.reverse_cons, List.append_assoc] at hrest
      exact hrest

theorem assemble_fields {n : Nat} {fields : List (String × Json)}
    (hfields : ∀ f ∈ fields, Builds n f.2.tokens f.2) (hne : fields ≠ [])
    {stack : List (Frame String Json)} (hroom : stack.length + 1 + n ≤ 127) (close : Bool)
    (done : List (String × Json)) (rest : List (Token String Json)) :
    shape.assemble stack (.key done close)
        ([.comma].intercalate (fields.map fun f => nameToken f.1 :: .colon :: tokens f.2) ++
          .closing .curly :: rest) =
      shape.assemble stack (.after (.object (done.reverse ++ fields))) rest := by
  induction fields generalizing close done with
  | nil => exact (hne rfl).elim
  | cons f fields ih =>
    obtain ⟨hf, hfields⟩ := List.forall_mem_cons.mp hfields
    have hvalue (rest : List (Token String Json)) :
        shape.assemble stack (.key done close) (nameToken f.1 :: .colon :: (tokens f.2 ++ rest)) =
          shape.assemble (.object done f.1 :: stack) (.after f.2) rest :=
      hf (.object done f.1 :: stack) false rest hroom
    cases fields with
    | nil =>
      rw [List.map_singleton, List.intercalate_singleton, List.cons_append, List.cons_append,
        hvalue]
      change shape.assemble stack (.after (.object (f :: done).reverse)) rest = _
      rw [List.reverse_cons]
    | cons next fields =>
      rw [List.map_cons, List.map_cons, List.intercalate_cons_cons, List.append_assoc,
        List.append_assoc, List.cons_append, List.cons_append, hvalue]
      have hrest := ih hfields (List.cons_ne_nil next fields) false (f :: done)
      rw [List.reverse_cons, List.append_assoc] at hrest
      exact hrest

theorem IsTextual.builds {n : Nat} {j : Json} (h : IsTextual n j) : Builds n j.tokens j := by
  induction h with
  | string s => exact fun _ _ _ _ => rfl
  | @array n items _ ih =>
    intro stack close rest hroom
    have hadmits : shape.admits stack.length = true := decide_eq_true (by omega)
    have hopen (ts : List (Token String Json)) :
        shape.assemble stack (.value close) (.opening .square :: ts) =
          shape.assemble (.array [] :: stack) (.value true) ts := by
      simp only [Shape.assemble, Shape.step, hadmits, if_true]
    rw [tokens, itemTokens_eq, List.cons_append, hopen, List.append_assoc, List.singleton_append]
    cases items with
    | nil => rfl
    | cons j items => exact assemble_items ih (List.cons_ne_nil j items) (by omega) true [] rest
  | @object n fields _ ih =>
    intro stack close rest hroom
    have hadmits : shape.admits stack.length = true := decide_eq_true (by omega)
    have hopen (ts : List (Token String Json)) :
        shape.assemble stack (.value close) (.opening .curly :: ts) =
          shape.assemble stack (.key [] true) ts := by
      simp only [Shape.assemble, Shape.step, hadmits, if_true]
    rw [tokens, fieldTokens_eq, List.cons_append, hopen, List.append_assoc, List.singleton_append]
    cases fields with
    | nil => rfl
    | cons f fields => exact assemble_fields ih (List.cons_ne_nil f fields) (by omega) true [] rest

theorem IsTextual.parse?_indented {n : Nat} {j : Json} (h : IsTextual n j) (hn : n ≤ 127) :
    parse? (j.indented ++ "\n") = some j := by
  have hscan : scan .blank [] (j.indented ++ "\n").toList = some j.tokens := by
    rw [String.toList_append, indented, h.spells 0]
    change some (j.tokens.reverse ++ []).reverse = some j.tokens
    rw [List.append_nil, List.reverse_reverse]
  have hbuild := h.builds [] false [] (by rwa [List.length_nil, Nat.zero_add])
  rw [List.append_nil] at hbuild
  rw [parse?, hscan]
  exact hbuild

end Legible.Json
