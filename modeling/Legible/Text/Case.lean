import Legible.Text.Class
import Legible.Text.Table.CaseIgnorable
import Legible.Text.Table.Cased
import Legible.Text.Table.Lowercase
import Legible.Text.Table.Uppercase

/-!
# Full case conversion

A character may map to several. The only mapping that looks at its surroundings is the one of
capital sigma, which has a form of its own at the end of a word.
-/

namespace Legible.Text

/-- The characters that `c` maps to under one pair of tables; `c` itself if neither covers it. -/
def mapCase (runs : List Table.CaseRun) (expansions : List (Nat × List Nat)) (c : Char) :
    List Char :=
  match expansions.lookup c.toNat with
  | some ns => ns.map Char.ofNat
  | none =>
    match runs.findSome? (·.image? c.toNat) with
    | some n => [Char.ofNat n]
    | none => [c]

def upperChar (c : Char) : List Char :=
  if c.toNat < 0x80 then [if 'a' ≤ c ∧ c ≤ 'z' then Char.ofNat (c.toNat - 32) else c]
  else mapCase Table.uppercaseRuns Table.uppercaseExpansions c

def lowerChar (c : Char) : List Char :=
  if c.toNat < 0x80 then [if 'A' ≤ c ∧ c ≤ 'Z' then Char.ofNat (c.toNat + 32) else c]
  else mapCase Table.lowercaseRuns Table.lowercaseExpansions c

def upper (s : String) : String := String.ofList (s.toList.flatMap upperChar)

/-- Whether the first character that counts for case is a letter with case. -/
def casedFirst (cs : List Char) : Bool :=
  match cs.dropWhile fun c => inRanges Table.caseIgnorable c.toNat with
  | [] => false
  | c :: _ => inRanges Table.cased c.toNat

/-- Lower-cases `cs`, where `before` holds the characters in front of it, the nearest first. -/
def lowerAfter (before : List Char) : List Char → List Char
  | [] => []
  | c :: cs =>
    let mapped :=
      if c = 'Σ' then [if casedFirst before && !casedFirst cs then 'ς' else 'σ'] else lowerChar c
    mapped ++ lowerAfter (c :: before) cs

def lower (s : String) : String := String.ofList (lowerAfter [] s.toList)

end Legible.Text
