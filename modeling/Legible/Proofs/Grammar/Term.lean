import Legible.Proofs.Grammar.Basic
import Mathlib

/-!
# Terms

Terms part by part: induction over them, what is left of one without its types, and sums over all the
nodes of one.
-/

namespace Legible.Grammar.Term

def parts : Term → List Term
  | .name _ => []
  | .literal _ => []
  | .member receiver _ => [receiver]
  | .index receiver arguments => receiver :: arguments
  | .call receiver _ _ arguments => receiver :: arguments
  | .binary _ left right => [left, right]
  | .conditional test ifTrue ifFalse => [test, ifTrue, ifFalse]
  | .lambda _ body => [body]

@[elab_as_elim]
theorem partsInduction {motive : Term → Prop} (h : ∀ t, (∀ p ∈ t.parts, motive p) → motive t)
    (t : Term) : motive t := by
  refine @Term.rec motive (fun ts => ∀ t ∈ ts, motive t) ?_ ?_ ?_ ?_ ?_ ?_ ?_ ?_ ?_ ?_ t
  · exact fun n => h _ nofun
  · exact fun value => h _ nofun
  · intro receiver n hr
    exact h _ (by simpa [parts] using hr)
  · intro receiver arguments hr ha
    exact h _ (List.forall_mem_cons.mpr ⟨hr, ha⟩)
  · intro receiver method types arguments hr ha
    exact h _ (List.forall_mem_cons.mpr ⟨hr, ha⟩)
  · intro op left right hl hr
    exact h _ (by simpa [parts] using And.intro hl hr)
  · intro test ifTrue ifFalse ht ha hb
    exact h _ (by simpa [parts] using And.intro ht (And.intro ha hb))
  · intro parameters body hb
    exact h _ (by simpa [parts] using hb)
  · exact List.forall_mem_nil _
  · exact fun t ts ht hts => List.forall_mem_cons.mpr ⟨ht, hts⟩

def sum : List Term → Term
  | [] => .name ""
  | t :: ts => ts.foldl (.binary .add) t

mutual

/-- The term without the types that are shown in it. -/
def erase : Term → Term
  | .name n => .name n
  | .literal value => .literal value
  | .member receiver n => .member (erase receiver) n
  | .index receiver arguments => .index (erase receiver) (eraseAll arguments)
  | .call receiver method _ arguments => .call (erase receiver) method [] (eraseAll arguments)
  | .binary op left right => .binary op (erase left) (erase right)
  | .conditional test ifTrue ifFalse => .conditional (erase test) (erase ifTrue) (erase ifFalse)
  | .lambda parameters body => .lambda (parameters.map fun p => (none, p.2)) (erase body)
termination_by structural t => t

def eraseAll : List Term → List Term
  | [] => []
  | t :: ts => erase t :: eraseAll ts
termination_by structural ts => ts

end

theorem eraseAll_eq (ts : List Term) : eraseAll ts = ts.map erase := by
  induction ts with
  | nil => rfl
  | cons t ts ih => rw [eraseAll, ih, List.map_cons]

theorem erase_sum (ts : List Term) : (sum ts).erase = sum (ts.map erase) := by
  cases ts with
  | nil => rfl
  | cons t ts =>
    rw [sum, List.map_cons, sum]
    induction ts generalizing t with
    | nil => rfl
    | cons u ts ih => rw [List.foldl_cons, ih, List.map_cons, List.foldl_cons, erase]

theorem parts_erase (t : Term) : t.erase.parts = t.parts.map erase := by
  cases t <;> simp [erase, parts, eraseAll_eq]

mutual

def total (f : Term → Int) : Term → Int
  | .name n => f (.name n)
  | .literal value => f (.literal value)
  | .member receiver n => f (.member receiver n) + total f receiver
  | .index receiver arguments =>
    f (.index receiver arguments) + (total f receiver + totalOfAll f arguments)
  | .call receiver method types arguments =>
    f (.call receiver method types arguments) + (total f receiver + totalOfAll f arguments)
  | .binary op left right => f (.binary op left right) + (total f left + total f right)
  | .conditional test ifTrue ifFalse =>
    f (.conditional test ifTrue ifFalse) + (total f test + (total f ifTrue + total f ifFalse))
  | .lambda parameters body => f (.lambda parameters body) + total f body
termination_by structural t => t

def totalOfAll (f : Term → Int) : List Term → Int
  | [] => 0
  | t :: ts => total f t + totalOfAll f ts
termination_by structural ts => ts

end

theorem totalOfAll_eq (f : Term → Int) (ts : List Term) :
    totalOfAll f ts = (ts.map (total f)).sum := by
  induction ts with
  | nil => rfl
  | cons t ts ih => rw [totalOfAll, ih, List.map_cons, List.sum_cons]

theorem total_eq (f : Term → Int) (t : Term) : total f t = f t + (t.parts.map (total f)).sum := by
  cases t <;> simp [total, parts, totalOfAll_eq]

theorem total_sub (f g : Term → Int) (t : Term) :
    total (fun t => f t - g t) t = total f t - total g t := by
  induction t using partsInduction with
  | h t ih =>
    have hparts (ts : List Term) (h : ∀ p ∈ ts, total (fun t => f t - g t) p = total f p - total g p) :
        (ts.map (total fun t => f t - g t)).sum =
          (ts.map (total f)).sum - (ts.map (total g)).sum := by
      induction ts with
      | nil => rfl
      | cons p ts ih =>
        obtain ⟨hp, hts⟩ := List.forall_mem_cons.mp h
        simp only [List.map_cons, List.sum_cons, hp, ih hts]
        omega
    rw [total_eq, total_eq f, total_eq g, hparts t.parts ih]
    omega

/-- What the nodes count may be read off without the types, if it does not depend on them. -/
theorem total_erase {f : Term → Int} (hf : ∀ t, f t.erase = f t) (t : Term) :
    total f t.erase = total f t := by
  induction t using partsInduction with
  | h t ih =>
    have hparts : (t.parts.map erase).map (total f) = t.parts.map (total f) := by
      rw [List.map_map]
      exact List.map_congr_left ih
    rw [total_eq, parts_erase, hparts, hf, ← total_eq]

end Legible.Grammar.Term
