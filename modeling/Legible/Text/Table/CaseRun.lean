/-!
# Runs of code points that change case by the same shift
-/

namespace Legible.Text.Table

/-- Every `step`-th code point from `first` to `last` maps to itself moved by `shift`. -/
structure CaseRun where
  first : Nat
  last : Nat
  step : Nat
  shift : Int

/-- The code point that the run assigns to `n`, if it covers `n`. -/
def CaseRun.image? (run : CaseRun) (n : Nat) : Option Nat :=
  if run.first ≤ n ∧ n ≤ run.last ∧ (n - run.first) % run.step = 0 then
    some (Int.toNat (Int.ofNat n + run.shift))
  else
    none

end Legible.Text.Table
