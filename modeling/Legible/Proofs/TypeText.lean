import Legible.Proofs.PageText
import Legible.Type.Basic

/-!
# The texts of types

The text of a type as a list of characters, part by part, and the names it is spelled with.
-/

namespace Legible

namespace Ty

@[elab_as_elim]
theorem induction {motive : Ty → Prop} (keyword : ∀ k, motive (.keyword k))
    (nullable : ∀ inner, motive inner → motive (.nullable inner))
    (named : ∀ name arguments, (∀ t ∈ arguments, motive t) → motive (.named name arguments))
    (function : ∀ parameters result, (∀ t ∈ parameters, motive t) → motive result →
      motive (.function parameters result))
    (t : Ty) : motive t := by
  refine @Ty.rec motive (fun ts => ∀ t ∈ ts, motive t) keyword nullable named function ?_ ?_ t
  · intro t ht
    cases ht
  · intro t ts ht hts u hu
    rcases List.mem_cons.mp hu with rfl | hu
    · exact ht
    · exact hts u hu

mutual

def names : Ty → List String
  | .keyword _ => []
  | .nullable inner => names inner
  | .named name arguments => name :: namesOfAll arguments
  | .function parameters result => namesOfAll parameters ++ names result
termination_by structural t => t

def namesOfAll : List Ty → List String
  | [] => []
  | t :: rest => names t ++ namesOfAll rest
termination_by structural ts => ts

end

theorem namesOfAll_eq (ts : List Ty) : namesOfAll ts = ts.flatMap names := by
  induction ts with
  | nil => rfl
  | cons t rest ih => rw [namesOfAll, ih, List.flatMap_cons]

theorem toList_moreText (ts : List Ty) :
    (moreText ts).toList = ts.flatMap fun t => ',' :: ' ' :: t.text.toList := by
  induction ts with
  | nil => rfl
  | cons t rest ih => simp [moreText, ih]

theorem toList_leadText (ts : List Ty) :
    (leadText ts).toList = ts.flatMap fun t => t.text.toList ++ [',', ' '] := by
  induction ts with
  | nil => rfl
  | cons t rest ih => simp [leadText, ih]

theorem toList_text_nullable (t : Ty) : (Ty.nullable t).text.toList = t.text.toList ++ ['?'] := by
  simp [text]

theorem toList_text_named_cons (name : String) (t : Ty) (ts : List Ty) :
    (Ty.named name (t :: ts)).text.toList =
      name.toList ++ ('<' :: (t.text.toList ++
        (ts.flatMap (fun t => ',' :: ' ' :: t.text.toList) ++ ['>']))) := by
  simp [text, toList_moreText]

theorem toList_text_function (ts : List Ty) (t : Ty) :
    (Ty.function ts t).text.toList =
      'F' :: 'u' :: 'n' :: 'c' :: '<' ::
        (ts.flatMap (fun t => t.text.toList ++ [',', ' ']) ++ (t.text.toList ++ ['>'])) := by
  simp [text, toList_leadText]

/-- What holds of the text of a type because it holds of its names: `Q` is said of a type, `R` of the
list between angle brackets. -/
structure Spelling (Q R : List Char → Prop) : Prop where
  append : ∀ {a b : List Char}, Q a → Q b → Q (a ++ b)
  mark : Q ['?']
  single : ∀ {a : List Char}, Q a → R a
  comma : ∀ {a b : List Char}, R a → R b → R (a ++ ',' :: ' ' :: b)
  angle : ∀ {a : List Char}, R a → Q ('<' :: (a ++ ['>']))

namespace Spelling

variable {Q R : List Char → Prop} (h : Spelling Q R)
include h

theorem more {ts : List Ty} (hts : ∀ t ∈ ts, Q t.text.toList) {a : List Char} (ha : R a) :
    R (a ++ ts.flatMap fun t => ',' :: ' ' :: t.text.toList) := by
  induction ts generalizing a with
  | nil => simpa using ha
  | cons t rest ih =>
    obtain ⟨ht, hrest⟩ := List.forall_mem_cons.mp hts
    have hnext := ih hrest (h.comma ha (h.single ht))
    simpa using hnext

theorem lead {ts : List Ty} (hts : ∀ t ∈ ts, Q t.text.toList) {a : List Char} (ha : R a) :
    R ((ts.flatMap fun t => t.text.toList ++ [',', ' ']) ++ a) := by
  induction ts with
  | nil => exact ha
  | cons t rest ih =>
    obtain ⟨ht, hrest⟩ := List.forall_mem_cons.mp hts
    have hnext := h.comma (h.single ht) (ih hrest)
    simpa using hnext

theorem text (hk : ∀ k : Keyword, Q k.text.toList) (hf : Q ['F', 'u', 'n', 'c']) {t : Ty}
    (hn : ∀ n ∈ t.names, Q n.toList) : Q t.text.toList := by
  induction t using Ty.induction with
  | keyword k => exact hk k
  | nullable inner ih =>
    rw [toList_text_nullable]
    exact h.append (ih hn) h.mark
  | named name arguments ih =>
    rw [names, namesOfAll_eq, List.forall_mem_cons] at hn
    have hall : ∀ t ∈ arguments, Q t.text.toList := fun t ht =>
      ih t ht fun n hm => hn.2 n (List.mem_flatMap.mpr ⟨t, ht, hm⟩)
    cases arguments with
    | nil => exact hn.1
    | cons t ts =>
      obtain ⟨ht, hts⟩ := List.forall_mem_cons.mp hall
      have hlist := h.more hts (h.single ht)
      rw [toList_text_named_cons, ← List.append_assoc]
      exact h.append hn.1 (h.angle hlist)
  | function parameters result ih ihr =>
    rw [names, namesOfAll_eq, List.forall_mem_append] at hn
    have hall : ∀ t ∈ parameters, Q t.text.toList := fun t ht =>
      ih t ht fun n hm => hn.1 n (List.mem_flatMap.mpr ⟨t, ht, hm⟩)
    have hlist := h.lead hall (h.single (ihr hn.2))
    rw [toList_text_function, ← List.append_assoc]
    exact h.append hf (h.angle hlist)

end Spelling

theorem spelling_oneLine : Spelling OneLine OneLine where
  append := OneLine.append
  mark := by decide
  single := id
  comma ha hb := ha.append (OneLine.cons (by decide) (OneLine.cons (by decide) hb))
  angle ha := OneLine.cons (by decide) (ha.append (by decide))

theorem oneLine_text {t : Ty} (h : ∀ n ∈ t.names, IsWord n) : OneLine t.text.toList := by
  refine spelling_oneLine.text ?_ (by decide) fun n hn => (h n hn).2
  intro k
  cases k <;> decide

end Ty

end Legible
