import Legible.Error
import Legible.Text.Escaped

/-!
# Rendering styles
-/

namespace Legible

structure Style where
  /-- Lambda parameters show their types, and literals the suffix that fixes theirs. -/
  explicitTypeNames : Bool := true
  /-- Calls show their type arguments. -/
  explicitTypeArguments : Bool := true
  /-- Captured variables show their value rather than their name. -/
  showCaptured : Bool := true
  /-- Written once per level of indentation. -/
  indentUnit : String := "  "
  /-- Conditionals that would pass this column are broken; without it, none are. -/
  lineWidth : Option Nat := none
deriving DecidableEq

namespace Style

def validate (style : Style) : Except Error Unit :=
  if style.indentUnit = "" then .error (.config "indentUnit must not be empty")
  else if !style.indentUnit.toList.all fun c => c == ' ' || c == '\t' then
    .error (.config ("indentUnit must contain only spaces or tabs, got " ++
      Text.escaped style.indentUnit))
  else if style.lineWidth = some 0 then .error (.config "lineWidth must be positive")
  else .ok ()

/-- The same style without line breaks. -/
def flat (style : Style) : Style := { style with lineWidth := none }

end Style

end Legible
