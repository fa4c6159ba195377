import Legible.Proofs.OperatorTable
import Legible.Proofs.Grammar.Basic

/-!
# Strengths and levels

Each place of an operand admits the phrases from some level on. An operand is put in parentheses
exactly where its own level is looser than that.
-/

namespace Legible

namespace Grammar

/-- The tightest level that holds a phrase for the term without parentheses around it. -/
def Term.level : Term → Level
  | .literal value => if value.isNegative then .signed else .primary
  | .binary op _ _ => .ofOperator op
  | .conditional _ _ _ => .cond
  | .lambda _ _ => .expr
  | .name _ | .member _ _ | .index _ _ | .call _ _ _ _ => .primary

namespace Level

theorem rank_injective {l l' : Level} (h : l.rank = l'.rank) : l = l' := by
  have hall : ∀ l : Level, [expr, cond, orElse, andAlso, equality, relational, coalesce, sum, product,
      signed, primary][l.rank]? = some l := by
    intro l
    cases l <;> rfl
  have hl := hall l
  rw [h, hall l'] at hl
  exact (Option.some.inj hl).symm

theorem rank_le_primary (l : Level) : l.rank ≤ primary.rank := by
  cases l <;> decide

theorem rank_next {l : Level} (h : l ≠ .primary) : l.next.rank = l.rank + 1 := by
  cases l <;> first | rfl | exact (h rfl).elim

end Level

theorem Derives.loosen {l l' : Level} {s : List Char} {t : Term} (h : Derives l s t)
    (hl : l'.rank ≤ l.rank) : Derives l' s t := by
  -- one unit production after the other, from `l` up to `l'`
  generalize hk : l.rank - l'.rank = k
  induction k generalizing l' with
  | zero =>
    have hrank : l'.rank = l.rank := by omega
    rw [Level.rank_injective hrank]
    exact h
  | succ k ih =>
    have hp : l' ≠ .primary := by
      rintro rfl
      have := l.rank_le_primary
      omega
    have hnext := Level.rank_next hp
    exact .lift (ih (by omega) (by omega))

theorem Derives.top {l : Level} {s : List Char} {t : Term} (h : Derives l s t) : Derives .expr s t :=
  h.loosen (Nat.zero_le l.rank)

end Grammar

open Grammar

namespace Strength

def grammarLevel : Strength → Level
  | .lowest => .expr
  | .lambda => .expr
  | .conditional => .cond
  | .orElse => .orElse
  | .andAlso => .andAlso
  | .equality => .equality
  | .relational => .relational
  | .coalesce => .coalesce
  | .additive => .sum
  | .multiplicative => .product
  | .unary => .signed
  | .primary => .primary

theorem rank_grammarLevel (s : Strength) : s.grammarLevel.rank = s.level - 1 := by
  cases s <;> rfl

theorem level_injective {s s' : Strength} (h : s.level = s'.level) : s = s' := by
  have hall : ∀ s : Strength, Strength.all[s.level]? = some s := by
    intro s
    cases s <;> rfl
  have hs := hall s
  rw [h, hall s'] at hs
  exact (Option.some.inj hs).symm

end Strength

namespace Binding

/-- The level from which on an operand stands bare. -/
def slot (parent : Binding) (side : Side) : Level :=
  match parent.associativity, side with
  | .left, .left | .right, .right => parent.strength.grammarLevel
  | _, _ => parent.strength.grammarLevel.next

theorem groups_iff {parent : Binding} (hlow : 2 ≤ parent.strength.level)
    (hhigh : parent.strength ≠ .primary) (child : Strength) (side : Side) :
    parent.groups child side = true ↔ child.grammarLevel.rank < (parent.slot side).rank := by
  have hne : parent.strength.grammarLevel ≠ .primary := by
    intro h
    have hrank := parent.strength.rank_grammarLevel
    rw [h] at hrank
    refine hhigh (Strength.level_injective ?_)
    change 10 = _ at hrank
    change _ = 11
    omega
  have hnext := Level.rank_next hne
  have hchild := child.rank_grammarLevel
  have hparent := parent.strength.rank_grammarLevel
  unfold groups slot
  by_cases heq : child = parent.strength
  · rw [if_pos heq, heq]
    split <;> simp_all
  · have hlevel : child.level ≠ parent.strength.level := fun h => heq (Strength.level_injective h)
    rw [if_neg heq, decide_eq_true_eq]
    split
    all_goals omega

theorem groups_memberAccess (child : Strength) :
    memberAccess.groups child .left = true ↔
      child.grammarLevel.rank < (memberAccess.slot .left).rank := by
  cases child <;> decide

theorem groups_operator (op : BinaryOp) (child : Strength) (side : Side) :
    op.binding.groups child side = true ↔
      child.grammarLevel.rank < (op.binding.slot side).rank := by
  apply groups_iff <;> cases op <;> decide

theorem groups_conditional (child : Strength) (side : Side) :
    conditional.groups child side = true ↔
      child.grammarLevel.rank < (conditional.slot side).rank :=
  groups_iff (by decide) (by decide) child side

theorem groups_concatenation (child : Strength) (side : Side) :
    concatenation.groups child side = true ↔
      child.grammarLevel.rank < (concatenation.slot side).rank :=
  groups_iff (by decide) (by decide) child side

end Binding

theorem Grammar.Derives.binary {op : BinaryOp} {s r : List Char} {t u : Term}
    (hl : Derives (op.binding.slot .left) s t) (hr : Derives (op.binding.slot .right) r u) :
    Derives (.ofOperator op) (s ++ ' ' :: (op.symbol.toList ++ ' ' :: r)) (.binary op t u) := by
  by_cases hc : op = .coalesce
  · subst hc
    exact .coalesce hl hr
  · cases op <;> first | exact (hc rfl).elim | exact .left (by decide) hl hr

end Legible
