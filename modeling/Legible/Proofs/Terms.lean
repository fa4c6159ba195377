import Legible.Proofs.Grammar.Literals
import Legible.Proofs.Grammar.Term
import Legible.Proofs.Nodes

/-!
# The term of a tree

What the text of a tree is to stand for: the tree without its static types, where a concatenation is
the sum of its operands.
-/

namespace Legible

open Grammar

namespace Expr

mutual

/-- The tree without static types, apart from those that the text shows. A concatenation is the sum
of its operands. -/
def term (types typeArguments : Bool) : Expr → Term
  | .parameter p => .name p.name
  | .constant value _ _ => .literal value
  | .property receiver name _ => .member (term types typeArguments receiver) name
  | .index receiver arguments _ =>
    .index (term types typeArguments receiver) (terms types typeArguments arguments)
  | .binary op left right _ =>
    .binary op (term types typeArguments left) (term types typeArguments right)
  | .conditional test ifTrue ifFalse _ =>
    .conditional (term types typeArguments test) (term types typeArguments ifTrue)
      (term types typeArguments ifFalse)
  | .call receiver method _ ts arguments _ =>
    .call (term types typeArguments receiver) method (if typeArguments then ts else [])
      (terms types typeArguments arguments)
  | .staticCall declaring method ts arguments type =>
    if (Expr.staticCall declaring method ts arguments type).isConcatenation then
      .sum (terms types typeArguments arguments)
    else
      .call (.name declaring.text) method (if typeArguments then ts else [])
        (terms types typeArguments arguments)
  | .lambda parameters body _ =>
    .lambda (parameters.map fun p => (if types then some p.type else none, p.name))
      (term types typeArguments body)
termination_by structural e => e

def terms (types typeArguments : Bool) : List Expr → List Term
  | [] => []
  | e :: rest => term types typeArguments e :: terms types typeArguments rest
termination_by structural es => es

end

theorem terms_eq (types typeArguments : Bool) (es : List Expr) :
    terms types typeArguments es = es.map (term types typeArguments) := by
  induction es with
  | nil => rfl
  | cons e rest ih => rw [terms, ih, List.map_cons]

def erased (e : Expr) : Term := e.term false false

theorem erase_term (types typeArguments : Bool) (e : Expr) :
    (e.term types typeArguments).erase = e.erased := by
  have hlist {es : List Expr} (h : ∀ a ∈ es, (a.term types typeArguments).erase = a.erased) :
      (terms types typeArguments es).map Term.erase = terms false false es := by
    rw [terms_eq, terms_eq, List.map_map]
    exact List.map_congr_left h
  unfold erased at *
  induction e using Expr.induction with
  | parameter p => rfl
  | constant value type captured => rfl
  | property receiver name type ih => simp only [term, Term.erase, ih]
  | index receiver arguments type ihr iha =>
    simp only [term, Term.erase, Term.eraseAll_eq, ihr, hlist iha]
  | binary op left right type ihl ihr => simp only [term, Term.erase, ihl, ihr]
  | conditional test ifTrue ifFalse type iht iha ihb =>
    simp only [term, Term.erase, iht, iha, ihb]
  | call receiver method declaring ts arguments type ihr iha =>
    simp [term, Term.erase, Term.eraseAll_eq, ihr, hlist iha]
  | staticCall declaring method ts arguments type iha =>
    simp only [term]
    split
    · rw [Term.erase_sum, hlist iha]
    · simp [Term.erase, Term.eraseAll_eq, hlist iha]
  | lambda parameters body type ih => simp [term, Term.erase, ih]

/-- The node is written with words that the grammar knows: its names are identifiers, its literal is
a plain one, its types read back from their texts, and a method of a type only concatenates. -/
def Spelled : Expr → Prop
  | .parameter p => isName p.name = true
  | .constant value _ captured => value.isPlain = true ∧ captured = none
  | .property _ name _ => isName name = true
  | .call _ method _ types _ _ => isName method = true ∧ ∀ t ∈ types, Ty.parse? t.text = some t
  | .staticCall declaring method types arguments type =>
    (Expr.staticCall declaring method types arguments type).isConcatenation = true ∧
      ∀ t ∈ types, Ty.parse? t.text = some t
  | .lambda parameters _ _ =>
    ∀ p ∈ parameters, isName p.name = true ∧ Ty.parse? p.type.text = some p.type
  | .index _ _ _ | .binary _ _ _ _ | .conditional _ _ _ _ => True

instance : DecidablePred Spelled
  | .parameter p => inferInstanceAs (Decidable (isName p.name = true))
  | .constant value _ captured =>
    inferInstanceAs (Decidable (value.isPlain = true ∧ captured = none))
  | .property _ name _ => inferInstanceAs (Decidable (isName name = true))
  | .call _ method _ types _ _ =>
    inferInstanceAs (Decidable (isName method = true ∧ ∀ t ∈ types, Ty.parse? t.text = some t))
  | .staticCall declaring method types arguments type =>
    inferInstanceAs (Decidable
      ((Expr.staticCall declaring method types arguments type).isConcatenation = true ∧
        ∀ t ∈ types, Ty.parse? t.text = some t))
  | .lambda parameters _ _ =>
    inferInstanceAs (Decidable
      (∀ p ∈ parameters, isName p.name = true ∧ Ty.parse? p.type.text = some p.type))
  | .index _ _ _ | .binary _ _ _ _ | .conditional _ _ _ _ => inferInstanceAs (Decidable True)

end Expr

end Legible
