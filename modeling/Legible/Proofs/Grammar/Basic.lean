import Legible.Literal
import Legible.Number.Reading
import Legible.Expr.Basic
import Legible.Type.Parser

/-!
# The grammar of rendered text

Phrases are sorted by how tightly they hold together, and every phrase stands for one term. A term is
a tree without static types, except for those that the text shows: the types of lambda parameters and
the type arguments of calls. Parentheses leave no trace in it.
-/

namespace Legible.Grammar

inductive Term where
  | name (n : String)
  | literal (value : Literal)
  | member (receiver : Term) (name : String)
  | index (receiver : Term) (arguments : List Term)
  | call (receiver : Term) (method : String) (types : List Ty) (arguments : List Term)
  | binary (op : BinaryOp) (left right : Term)
  | conditional (test ifTrue ifFalse : Term)
  | lambda (parameters : List (Option Ty × String)) (body : Term)

/-! ## Words -/

def isWordStart (c : Char) : Bool := Text.isAsciiLetter c || c == '_'

def isWordChar (c : Char) : Bool := isWordStart c || Text.isAsciiDigit c

def reserved : List String := ["true", "false", "null"]

/-- An ASCII identifier that is no literal. -/
def isName (n : String) : Bool :=
  match n.toList with
  | [] => false
  | c :: cs => isWordStart c && cs.all isWordChar && !reserved.contains n

def escapes (delimiter : Char) : List (Char × Char) :=
  [('\\', '\\'), ('n', '\n'), ('r', '\r'), ('t', '\t'), ('0', Char.ofNat 0), (delimiter, delimiter)]

/-- The inside of a quoted text, and the characters it stands for. -/
inductive Quoted (delimiter : Char) : List Char → List Char → Prop where
  | nil : Quoted delimiter [] []
  | plain {c : Char} {s v : List Char} (hc : c ∉ ['\\', delimiter, '\n', '\r'])
      (h : Quoted delimiter s v) : Quoted delimiter (c :: s) (c :: v)
  | escaped {k c : Char} {s v : List Char} (hc : (k, c) ∈ escapes delimiter)
      (h : Quoted delimiter s v) : Quoted delimiter ('\\' :: k :: s) (c :: v)

def suffixes : List (List Char) := [[], ['L'], ['m']]

inductive Atom : List Char → Term → Prop where
  | name {n : String} (h : isName n = true) : Atom n.toList (.name n)
  | null : Atom ['n', 'u', 'l', 'l'] (.literal .null)
  | bool (b : Bool) : Atom (if b then "true" else "false").toList (.literal (.bool b))
  | number {s suffix : List Char} {n : Int64} (hs : isDigits s = true) (hx : suffix ∈ suffixes)
      (hn : n.toInt = Number.natOfDigits s) : Atom (s ++ suffix) (.literal (.integer n))
  | char {s : List Char} {c : Char} (h : Quoted '\'' s [c]) :
      Atom ('\'' :: (s ++ ['\''])) (.literal (.char c))
  | string {s v : List Char} (h : Quoted '"' s v) :
      Atom ('"' :: (s ++ ['"'])) (.literal (.string (String.ofList v)))

inductive Negative : List Char → Term → Prop where
  | number {s suffix : List Char} {n : Int64} (hs : isDigits s = true) (hx : suffix ∈ suffixes)
      (hn : n.toInt = -(Number.natOfDigits s : Int)) (hneg : n.toInt < 0) :
      Negative ('-' :: (s ++ suffix)) (.literal (.integer n))

/-! ## Lists -/

inductive Commas {α : Type} (P : List Char → α → Prop) : List Char → List α → Prop where
  | one {s : List Char} {a : α} (h : P s a) : Commas P s [a]
  | more {s r : List Char} {a : α} {as : List α} (h : P s a) (hs : Commas P r as) :
      Commas P (s ++ ',' :: ' ' :: r) (a :: as)

/-- The text of a type that reads back as that type. -/
def Spells (s : List Char) (t : Ty) : Prop := s = t.text.toList ∧ Ty.parse? t.text = some t

inductive TypeArguments : List Char → List Ty → Prop where
  | none : TypeArguments [] []
  | list {s : List Char} {ts : List Ty} (h : Commas Spells s ts) :
      TypeArguments ('<' :: (s ++ ['>'])) ts

inductive Parameter : List Char → Option Ty × String → Prop where
  | bare {n : String} (h : isName n = true) : Parameter n.toList (none, n)
  | typed {s : List Char} {t : Ty} {n : String} (hs : Spells s t) (h : isName n = true) :
      Parameter (s ++ ' ' :: n.toList) (some t, n)

inductive Head : List Char → List (Option Ty × String) → Prop where
  | bare {n : String} (h : isName n = true) : Head n.toList [(none, n)]
  | none : Head ['(', ')'] []
  | list {s : List Char} {ps : List (Option Ty × String)} (h : Commas Parameter s ps) :
      Head ('(' :: (s ++ [')'])) ps

/-! ## Phrases -/

/-- The sorts of phrases, from the loosest to the tightest. -/
inductive Level where
  | expr
  | cond
  | orElse
  | andAlso
  | equality
  | relational
  | coalesce
  | sum
  | product
  | signed
  | primary
deriving DecidableEq

namespace Level

def next : Level → Level
  | .expr => .cond
  | .cond => .orElse
  | .orElse => .andAlso
  | .andAlso => .equality
  | .equality => .relational
  | .relational => .coalesce
  | .coalesce => .sum
  | .sum => .product
  | .product => .signed
  | .signed => .primary
  | .primary => .primary

/-- The operators that chain to the left on a level. -/
def operators : Level → List BinaryOp
  | .orElse => [.orElse]
  | .andAlso => [.andAlso]
  | .equality => [.equal, .notEqual]
  | .relational => [.lessThan, .greaterThan]
  | .sum => [.add, .subtract]
  | .product => [.multiply]
  | .expr | .cond | .coalesce | .signed | .primary => []

def rank : Level → Nat
  | .expr => 0
  | .cond => 1
  | .orElse => 2
  | .andAlso => 3
  | .equality => 4
  | .relational => 5
  | .coalesce => 6
  | .sum => 7
  | .product => 8
  | .signed => 9
  | .primary => 10

def ofOperator : BinaryOp → Level
  | .orElse => .orElse
  | .andAlso => .andAlso
  | .equal | .notEqual => .equality
  | .lessThan | .greaterThan => .relational
  | .coalesce => .coalesce
  | .add | .subtract => .sum
  | .multiply => .product

theorem ofOperator_eq {l : Level} {op : BinaryOp} (h : op ∈ l.operators) : ofOperator op = l := by
  cases l <;> cases op <;> first | rfl | simp [operators] at h

theorem rank_le_rank_next (l : Level) : l.rank ≤ l.next.rank := by
  cases l <;> decide

theorem rank_lt_rank_next {l : Level} (h : l ≠ .primary) : l.rank < l.next.rank := by
  cases l <;> first | decide | exact (h rfl).elim

end Level

inductive Derives : Level → List Char → Term → Prop where
  | atom {s : List Char} {t : Term} (h : Atom s t) : Derives .primary s t
  | group {s : List Char} {t : Term} (h : Derives .expr s t) :
      Derives .primary ('(' :: (s ++ [')'])) t
  | member {s : List Char} {t : Term} {n : String} (h : Derives .primary s t)
      (hn : isName n = true) : Derives .primary (s ++ '.' :: n.toList) (.member t n)
  | index {s a : List Char} {t : Term} {ts : List Term} (h : Derives .primary s t)
      (ha : Commas (Derives .expr) a ts) : Derives .primary (s ++ '[' :: (a ++ [']'])) (.index t ts)
  | call {s g : List Char} {t : Term} {n : String} {types : List Ty} (h : Derives .primary s t)
      (hn : isName n = true) (hg : TypeArguments g types) :
      Derives .primary (s ++ '.' :: (n.toList ++ (g ++ ['(', ')']))) (.call t n types [])
  | callWith {s g a : List Char} {t : Term} {n : String} {types : List Ty} {ts : List Term}
      (h : Derives .primary s t) (hn : isName n = true) (hg : TypeArguments g types)
      (ha : Commas (Derives .expr) a ts) :
      Derives .primary (s ++ '.' :: (n.toList ++ (g ++ '(' :: (a ++ [')'])))) (.call t n types ts)
  | negative {s : List Char} {t : Term} (h : Negative s t) : Derives .signed s t
  | lift {l : Level} {s : List Char} {t : Term} (h : Derives l.next s t) : Derives l s t
  | left {l : Level} {op : BinaryOp} {s r : List Char} {t u : Term} (hop : op ∈ l.operators)
      (h : Derives l s t) (hr : Derives l.next r u) :
      Derives l (s ++ ' ' :: (op.symbol.toList ++ ' ' :: r)) (.binary op t u)
  | coalesce {s r : List Char} {t u : Term} (h : Derives .sum s t) (hr : Derives .coalesce r u) :
      Derives .coalesce (s ++ ' ' :: '?' :: '?' :: ' ' :: r) (.binary .coalesce t u)
  | conditional {s a b : List Char} {t u v : Term} (h : Derives .orElse s t)
      (ha : Derives .cond a u) (hb : Derives .cond b v) :
      Derives .cond (s ++ ' ' :: '?' :: ' ' :: (a ++ ' ' :: ':' :: ' ' :: b)) (.conditional t u v)
  | lambda {p b : List Char} {ps : List (Option Ty × String)} {t : Term} (hp : Head p ps)
      (h : Derives .expr b t) :
      Derives .expr (p ++ ' ' :: '=' :: '>' :: ' ' :: b) (.lambda ps t)

/-- Induction over phrases, where the phrases of a list are treated alike. -/
@[elab_as_elim]
theorem Derives.induct {motive : ∀ l s t, Derives l s t → Prop}
    (atom : ∀ {s t} (h : Atom s t), motive .primary s t (.atom h))
    (group : ∀ {s t} (h : Derives .expr s t), motive .expr s t h → motive .primary _ t (.group h))
    (member : ∀ {s t n} (h : Derives .primary s t) (hn : isName n = true), motive .primary s t h →
      motive .primary _ _ (.member h hn))
    (index : ∀ {s a t ts} (h : Derives .primary s t) (ha : Commas (Derives .expr) a ts),
      motive .primary s t h → Commas (fun s t => ∃ h, motive .expr s t h) a ts →
      motive .primary _ _ (.index h ha))
    (call : ∀ {s g t n types} (h : Derives .primary s t) (hn : isName n = true)
      (hg : TypeArguments g types), motive .primary s t h → motive .primary _ _ (.call h hn hg))
    (callWith : ∀ {s g a t n types ts} (h : Derives .primary s t) (hn : isName n = true)
      (hg : TypeArguments g types) (ha : Commas (Derives .expr) a ts), motive .primary s t h →
      Commas (fun s t => ∃ h, motive .expr s t h) a ts →
      motive .primary _ _ (.callWith h hn hg ha))
    (negative : ∀ {s t} (h : Negative s t), motive .signed s t (.negative h))
    (lift : ∀ {l s t} (h : Derives (Level.next l) s t), motive l.next s t h →
      motive l s t (.lift h))
    (left : ∀ {l op s r t u} (hop : op ∈ Level.operators l) (h : Derives l s t)
      (hr : Derives l.next r u), motive l s t h → motive l.next r u hr →
      motive l _ _ (.left hop h hr))
    (coalesce : ∀ {s r t u} (h : Derives .sum s t) (hr : Derives .coalesce r u),
      motive .sum s t h → motive .coalesce r u hr → motive .coalesce _ _ (.coalesce h hr))
    (conditional : ∀ {s a b t u v} (h : Derives .orElse s t) (ha : Derives .cond a u)
      (hb : Derives .cond b v), motive .orElse s t h → motive .cond a u ha → motive .cond b v hb →
      motive .cond _ _ (.conditional h ha hb))
    (lambda : ∀ {p b ps t} (hp : Head p ps) (h : Derives .expr b t), motive .expr b t h →
      motive .expr _ _ (.lambda hp h))
    {l : Level} {s : List Char} {t : Term} (h : Derives l s t) : motive l s t h := by
  refine @Derives.rec motive (fun a ts _ => Commas (fun s t => ∃ h, motive .expr s t h) a ts)
    atom group member index call callWith negative lift left coalesce conditional lambda ?_ ?_ l s t h
  · intro s a h ih
    exact .one ⟨h, ih⟩
  · intro s r a as h _ ih ihs
    exact .more ⟨h, ih⟩ ihs

def Parses (text : String) (t : Term) : Prop := Derives .expr text.toList t

end Legible.Grammar
