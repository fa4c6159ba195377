import Legible.Proofs.Grammar.Heads
import Legible.Proofs.Grammar.Levels
import Legible.Proofs.Grammar.Term

/-!
# Counting the characters of a phrase

Only opening parentheses, blanks and commas are counted, and a comma always takes the blank behind it
along. A phrase for a term then counts what the nodes of the term count, and on top of that one
parenthesis for each group and each list of parameters. There are at least as many of these as the
levels of the operands ask for.
-/

namespace Legible.Grammar

structure Weight where
  of : Char → Int
  other : ∀ c, c ∉ ['(', ' ', ','] → of c = 0
  comma : of ',' + of ' ' = 0

namespace Weight

def parentheses : Weight where
  of c := if c = '(' then 1 else 0
  other c hc := by
    simp only [List.mem_cons, not_or] at hc
    rw [if_neg hc.1]
  comma := by decide

/-- Blanks that stand behind no comma. -/
def blanks : Weight where
  of c := if c = ' ' then 1 else if c = ',' then -1 else 0
  other c hc := by
    simp only [List.mem_cons, List.not_mem_nil, or_false, not_or] at hc
    rw [if_neg hc.2.1, if_neg hc.2.2]
  comma := by decide

def tally (w : Weight) (s : List Char) : Int := (s.map w.of).sum

variable (w : Weight)

@[simp] theorem tally_nil : w.tally [] = 0 := rfl

@[simp] theorem tally_cons (c : Char) (s : List Char) : w.tally (c :: s) = w.of c + w.tally s := by
  rw [tally, List.map_cons, List.sum_cons, tally]

@[simp] theorem tally_append (a b : List Char) : w.tally (a ++ b) = w.tally a + w.tally b := by
  rw [tally, List.map_append, List.sum_append, tally, tally]

theorem tally_eq_zero {s : List Char} (h : ∀ c ∈ s, c ∉ ['(', ' ', ',']) : w.tally s = 0 := by
  induction s with
  | nil => rfl
  | cons c s ih =>
    obtain ⟨hc, hs⟩ := List.forall_mem_cons.mp h
    rw [tally_cons, w.other c hc, ih hs, Int.add_zero]

theorem tally_word {s : List Char} (h : ∀ c ∈ s, isWordChar c = true) : w.tally s = 0 :=
  w.tally_eq_zero fun c hc => not_mem_marks (by decide) (h c hc)

theorem tally_name {n : String} (h : isName n = true) : w.tally n.toList = 0 :=
  w.tally_word (isWordChar_of_isName h)

theorem tally_symbol (op : BinaryOp) : w.tally op.symbol.toList = 0 := by
  apply tally_eq_zero
  cases op <;> decide

theorem tally_quoted {delimiter : Char} (hd : delimiter ∈ ['\'', '"']) {s v : List Char}
    (h : Quoted delimiter s v) : w.tally s = w.tally v := by
  induction h with
  | nil => rfl
  | plain _ _ ih => rw [tally_cons, tally_cons, ih]
  | escaped hc _ ih =>
    have hpair : ∀ p ∈ escapes delimiter, p.1 ∉ ['(', ' ', ','] ∧ p.2 ∉ ['(', ' ', ','] := by
      simp only [List.mem_cons, List.not_mem_nil, or_false] at hd
      rcases hd with rfl | rfl <;> decide
    obtain ⟨hk, hc⟩ := hpair _ hc
    rw [tally_cons, tally_cons, tally_cons, ih, w.other _ hk, w.other _ hc,
      w.other '\\' (by decide), Int.zero_add]

theorem tally_spelling : Ty.Spelling (fun s => w.tally s = 0) (fun s => w.tally s = 0) where
  append {a b} ha hb := by
    rw [tally_append, ha, hb, Int.add_zero]
  mark := w.tally_eq_zero (by decide)
  single := id
  comma {a b} ha hb := by
    rw [tally_append, tally_cons, tally_cons, ha, hb]
    have := w.comma
    omega
  angle {a} ha := by
    rw [tally_cons, tally_append, ha, w.other '<' (by decide), w.tally_eq_zero (by decide)]
    rfl

theorem tally_type {s : List Char} {t : Ty} (h : Spells s t) : w.tally s = 0 := by
  rw [h.1]
  refine h.wellFormed.text_of_spelling w.tally_spelling fun s hs => w.tally_eq_zero fun c hc => ?_
  exact not_mem_marks (by decide) (hs c hc)

/-- A list counts what its members count. -/
theorem tally_commas {α : Type} {P : List Char → α → Prop} {f : α → Int}
    (hP : ∀ s a, P s a → w.tally s = f a) {s : List Char} {as : List α} (h : Commas P s as) :
    w.tally s = (as.map f).sum := by
  induction h with
  | one h => simp [hP _ _ h]
  | more h _ ih =>
    rw [tally_append, tally_cons, tally_cons, hP _ _ h, ih, List.map_cons, List.sum_cons]
    have := w.comma
    omega

theorem tally_typeArguments {g : List Char} {types : List Ty} (h : TypeArguments g types) :
    w.tally g = 0 := by
  cases h with
  | none => rfl
  | list h =>
    have hlist := w.tally_commas (f := fun _ => 0) (fun _ _ h => w.tally_type h) h
    rw [tally_cons, tally_append, hlist, w.other '<' (by decide), w.tally_eq_zero (by decide)]
    simp

end Weight

/-! ## What the nodes of a term count -/

def literalChars : Literal → List Char
  | .char c => [c]
  | .string v => v.toList
  | .null | .bool _ | .integer _ | .decimal _ | .double _ => []

def Weight.typed (w : Weight) (ps : List (Option Ty × String)) : Int :=
  (ps.map fun p => if p.1.isSome then w.of ' ' else 0).sum

def untyped (ps : List (Option Ty × String)) : Int :=
  (ps.map fun p => if p.1.isSome then 0 else 1).sum

def Weight.node (w : Weight) : Term → Int
  | .literal value => w.tally (literalChars value)
  | .call _ _ _ _ => w.of '('
  | .binary _ _ _ => 2 * w.of ' '
  | .conditional _ _ _ => 4 * w.of ' '
  | .lambda ps _ => w.typed ps + 2 * w.of ' '
  | .name _ | .member _ _ | .index _ _ => 0

/-- The pair that a term needs in a place of the level. -/
def extra (l : Level) (t : Term) : Int := if t.level.rank < l.rank then 1 else 0

/-- The pairs that the parts of a node need, and the one around its parameters. With `shown`, each
parameter without a type is set off against a pair. -/
def required (shown : Bool) : Term → Int
  | .name _ | .literal _ => 0
  | .member receiver _ | .index receiver _ | .call receiver _ _ _ => extra .primary receiver
  | .binary op left right =>
    extra (op.binding.slot .left) left + extra (op.binding.slot .right) right
  | .conditional test ifTrue ifFalse =>
    extra .orElse test + (extra .cond ifTrue + extra .cond ifFalse)
  | .lambda ps _ => if shown then 1 - untyped ps else if ps.length = 1 then 0 else 1

theorem extra_nonneg (l : Level) (t : Term) : 0 ≤ extra l t ∧ extra l t ≤ 1 := by
  unfold extra
  split <;> decide

theorem extra_eq_zero {l : Level} {t : Term} (h : l.rank ≤ t.level.rank) : extra l t = 0 :=
  if_neg (Nat.not_lt.mpr h)

/-- A node in a place of its own level needs nothing more. -/
theorem enough_of_parts {l : Level} {t : Term} (hl : t.level = l) {n k : Int} (h : n ≤ k) :
    n + extra l t ≤ k := by
  rw [extra_eq_zero (Nat.le_of_eq (congrArg Level.rank hl.symm)), Int.add_zero]
  exact h

theorem extra_le_next (l : Level) (t : Term) : extra l t ≤ extra l.next t := by
  have hnext := l.rank_le_rank_next
  unfold extra
  split
  · rw [if_pos (by omega)]
  · split <;> decide

theorem untyped_nonneg (ps : List (Option Ty × String)) : 0 ≤ untyped ps := by
  induction ps with
  | nil => exact Int.le_refl 0
  | cons p ps ih =>
    rw [untyped, List.map_cons, List.sum_cons]
    rw [untyped] at ih
    split <;> omega

theorem typed_add_untyped (ps : List (Option Ty × String)) :
    Weight.blanks.typed ps + untyped ps = ps.length := by
  induction ps with
  | nil => rfl
  | cons p ps ih =>
    rw [Weight.typed, untyped] at ih ⊢
    have hblank : Weight.blanks.of ' ' = 1 := rfl
    simp only [List.map_cons, List.sum_cons, List.length_cons, hblank] at ih ⊢
    split <;> omega

/-- With `k` pairs that are groups or stand around parameters. -/
structure Accounts (l : Level) (s : List Char) (t : Term) (k : Int) : Prop where
  tally : ∀ w : Weight, w.tally s = t.total w.node + k * w.of '('
  enough : ∀ shown, t.total (required shown) + extra l t ≤ k

/-- The same of a list, whose members stand in places that take anything. -/
structure AccountsAll (s : List Char) (ts : List Term) (k : Int) : Prop where
  tally : ∀ w : Weight, w.tally s = Term.totalOfAll w.node ts + k * w.of '('
  enough : ∀ shown, Term.totalOfAll (required shown) ts ≤ k

theorem Head.accounts {p : List Char} {ps : List (Option Ty × String)} (h : Head p ps) (b : Term) :
    ∃ k ≤ 1, (∀ w : Weight, w.tally p = w.typed ps + k * w.of '(') ∧
      ∀ shown, required shown (.lambda ps b) ≤ k := by
  cases h with
  | bare hn =>
    refine ⟨0, by decide, fun w => ?_, fun shown => ?_⟩
    · rw [w.tally_name hn]
      simp [Weight.typed]
    · cases shown <;> exact Int.le_refl 0
  | none =>
    refine ⟨1, Int.le_refl 1, fun w => ?_, fun shown => ?_⟩
    · simp [Weight.typed, w.other ')' (by decide)]
    · cases shown <;> exact Int.le_refl 1
  | list h =>
    refine ⟨1, Int.le_refl 1, fun w => ?_, fun shown => ?_⟩
    · have hps := w.tally_commas (f := fun p => if p.1.isSome then w.of ' ' else 0) (fun s p hp => by
        cases hp with
        | bare hn => exact w.tally_name hn
        | typed hs hn => simp [w.tally_type hs, w.tally_name hn]) h
      rw [Weight.tally_cons, Weight.tally_append, hps, w.tally_eq_zero (by decide), Weight.typed]
      omega
    · have := untyped_nonneg ps
      cases shown with
      | true =>
        change 1 - untyped ps ≤ 1
        omega
      | false =>
        change (if ps.length = 1 then 0 else 1 : Int) ≤ 1
        split <;> omega

theorem accountsAll_nil : AccountsAll [] [] 0 := by
  refine ⟨fun w => ?_, fun shown => Int.le_refl 0⟩
  rw [Int.zero_mul, Int.add_zero]
  rfl

theorem Commas.accounts {P : List Char → Term → Prop} (hP : ∀ s t, P s t → ∃ k, Accounts .expr s t k)
    {a : List Char} {ts : List Term} (h : Commas P a ts) : ∃ k, AccountsAll a ts k := by
  have hextra (t : Term) : extra .expr t = 0 := extra_eq_zero (Nat.zero_le _)
  induction h with
  | one h =>
    obtain ⟨k, hk⟩ := hP _ _ h
    refine ⟨k, fun w => ?_, fun shown => ?_⟩
    · rw [hk.tally w, Term.totalOfAll, Term.totalOfAll, Int.add_zero]
    · have henough := hk.enough shown
      rw [hextra] at henough
      rw [Term.totalOfAll, Term.totalOfAll]
      exact henough
  | more h _ ih =>
    obtain ⟨k, hk⟩ := hP _ _ h
    obtain ⟨k', hrest⟩ := ih
    refine ⟨k + k', fun w => ?_, fun shown => ?_⟩
    · have hcomma := w.comma
      rw [Weight.tally_append, Weight.tally_cons, Weight.tally_cons, hk.tally w, hrest.tally w,
        Term.totalOfAll]
      linear_combination hcomma
    · have henough := hk.enough shown
      have hmore := hrest.enough shown
      rw [hextra] at henough
      rw [Term.totalOfAll]
      omega

theorem accounts_literal {l : Level} {s : List Char} {value : Literal}
    (hs : ∀ w : Weight, w.tally s = w.tally (literalChars value))
    (hl : l.rank ≤ (Term.literal value).level.rank) : Accounts l s (.literal value) 0 := by
  refine ⟨fun w => ?_, fun shown => ?_⟩
  · rw [hs w, Term.total, Weight.node, Int.zero_mul, Int.add_zero]
  · rw [extra_eq_zero hl]
    exact Int.le_refl 0

theorem Atom.accounts {s : List Char} {t : Term} (h : Atom s t) : Accounts .primary s t 0 := by
  cases h with
  | name hn =>
    refine ⟨fun w => ?_, fun shown => Int.le_refl 0⟩
    rw [w.tally_name hn, Int.zero_mul]
    rfl
  | null => exact accounts_literal (fun w => w.tally_eq_zero (by decide)) (Nat.le_refl _)
  | bool b => cases b <;> exact accounts_literal (fun w => w.tally_eq_zero (by decide)) (Nat.le_refl _)
  | number hs hx hn =>
    rename_i n
    have hpos : (Literal.integer n).isNegative = false := by
      simp only [Literal.isNegative, hn, decide_eq_false_iff_not]
      omega
    refine accounts_literal (fun w => w.tally_word (number_word hs hx).2.1) ?_
    rw [Term.level, hpos]
    exact Nat.le_refl _
  | char h =>
    refine accounts_literal (fun w => ?_) (Nat.le_refl _)
    simp only [Weight.tally_cons, Weight.tally_append, w.tally_quoted (by decide) h,
      w.other '\'' (by decide), Weight.tally_nil, literalChars]
    omega
  | string h =>
    refine accounts_literal (fun w => ?_) (Nat.le_refl _)
    simp only [Weight.tally_cons, Weight.tally_append, w.tally_quoted (by decide) h,
      w.other '"' (by decide), Weight.tally_nil, literalChars, String.toList_ofList]
    omega

theorem Negative.accounts {s : List Char} {t : Term} (h : Negative s t) :
    Accounts .signed s t 0 := by
  cases h with
  | number hs hx hn hneg =>
    rename_i n
    have hneg : (Literal.integer n).isNegative = true := by
      simpa only [Literal.isNegative, decide_eq_true_eq] using hneg
    refine accounts_literal (fun w => ?_) ?_
    · rw [Weight.tally_cons, w.tally_word (number_word hs hx).2.1, w.other '-' (by decide)]
      rfl
    · rw [Term.level, hneg]
      exact Nat.le_refl _

theorem slot_of_mem {l : Level} {op : BinaryOp} (h : op ∈ l.operators) :
    op.binding.slot .left = l ∧ op.binding.slot .right = l.next := by
  cases l <;> cases op <;> first | exact ⟨rfl, rfl⟩ | simp [Level.operators] at h

/-! Each rule keeps the account. -/

namespace Accounts

variable {l : Level} {s : List Char} {t : Term} {k : Int}

theorem group (h : Accounts .expr s t k) : Accounts .primary ('(' :: (s ++ [')'])) t (k + 1) := by
  refine ⟨fun w => ?_, fun shown => ?_⟩
  · rw [Weight.tally_cons, Weight.tally_append, h.tally w, w.tally_eq_zero (by decide)]
    ring
  · have henough := h.enough shown
    have hexpr := extra_nonneg .expr t
    have hprimary := extra_nonneg .primary t
    omega

theorem lift (h : Accounts l.next s t k) : Accounts l s t k := by
  refine ⟨h.tally, fun shown => ?_⟩
  have henough := h.enough shown
  have hnext := extra_le_next l t
  omega

theorem member (h : Accounts .primary s t k) {n : String} (hn : isName n = true) :
    Accounts .primary (s ++ '.' :: n.toList) (.member t n) k := by
  refine ⟨fun w => ?_, fun shown => ?_⟩
  · rw [Weight.tally_append, Weight.tally_cons, h.tally w, w.tally_name hn,
      w.other '.' (by decide), Term.total, Weight.node]
    ring
  · have henough := h.enough shown
    refine enough_of_parts rfl ?_
    rw [Term.total, required]
    omega

section Arguments

variable {a : List Char} {ts : List Term} {j : Int}

theorem index (h : Accounts .primary s t k) (ha : AccountsAll a ts j) :
    Accounts .primary (s ++ '[' :: (a ++ [']'])) (.index t ts) (k + j) := by
  refine ⟨fun w => ?_, fun shown => ?_⟩
  · rw [Weight.tally_append, Weight.tally_cons, Weight.tally_append, h.tally w, ha.tally w,
      w.other '[' (by decide), w.tally_eq_zero (by decide), Term.total, Weight.node]
    ring
  · have henough := h.enough shown
    have harguments := ha.enough shown
    refine enough_of_parts rfl ?_
    rw [Term.total, required]
    omega

theorem call (h : Accounts .primary s t k) {n : String} (hn : isName n = true) {g : List Char}
    {types : List Ty} (hg : TypeArguments g types) (ha : AccountsAll a ts j) :
    Accounts .primary (s ++ '.' :: (n.toList ++ (g ++ '(' :: (a ++ [')'])))) (.call t n types ts)
      (k + j) := by
  refine ⟨fun w => ?_, fun shown => ?_⟩
  · rw [Weight.tally_append, Weight.tally_cons, Weight.tally_append, Weight.tally_append,
      Weight.tally_cons, Weight.tally_append, h.tally w, ha.tally w, w.tally_name hn,
      w.tally_typeArguments hg, w.other '.' (by decide), w.tally_eq_zero (by decide), Term.total,
      Weight.node]
    ring
  · have henough := h.enough shown
    have harguments := ha.enough shown
    refine enough_of_parts rfl ?_
    rw [Term.total, required]
    omega

end Arguments

theorem binary {op : BinaryOp} {r : List Char} {u : Term} {j : Int}
    (hs : Accounts (op.binding.slot .left) s t j) (hr : Accounts (op.binding.slot .right) r u k) :
    Accounts (.ofOperator op) (s ++ ' ' :: (op.symbol.toList ++ ' ' :: r)) (.binary op t u)
      (j + k) := by
  refine ⟨fun w => ?_, fun shown => ?_⟩
  · rw [Weight.tally_append, Weight.tally_cons, Weight.tally_append, Weight.tally_cons, hs.tally w,
      hr.tally w, w.tally_symbol, Term.total, Weight.node]
    ring
  · have hleft := hs.enough shown
    have hright := hr.enough shown
    refine enough_of_parts rfl ?_
    rw [Term.total, required]
    omega

theorem conditional {a b : List Char} {u v : Term} {i j : Int} (h : Accounts .orElse s t i)
    (ha : Accounts .cond a u j) (hb : Accounts .cond b v k) :
    Accounts .cond (s ++ ' ' :: '?' :: ' ' :: (a ++ ' ' :: ':' :: ' ' :: b)) (.conditional t u v)
      (i + (j + k)) := by
  refine ⟨fun w => ?_, fun shown => ?_⟩
  · simp only [Weight.tally_append, Weight.tally_cons, h.tally w, ha.tally w, hb.tally w,
      w.other '?' (by decide), w.other ':' (by decide), Term.total, Weight.node]
    ring
  · have htest := h.enough shown
    have htrue := ha.enough shown
    have hfalse := hb.enough shown
    refine enough_of_parts rfl ?_
    rw [Term.total, required]
    omega

theorem lambda (h : Accounts .expr s t k) {p : List Char} {ps : List (Option Ty × String)} {j : Int}
    (hp : ∀ w : Weight, w.tally p = w.typed ps + j * w.of '(')
    (hrequired : ∀ shown, required shown (.lambda ps t) ≤ j) :
    Accounts .expr (p ++ ' ' :: '=' :: '>' :: ' ' :: s) (.lambda ps t) (j + k) := by
  refine ⟨fun w => ?_, fun shown => ?_⟩
  · simp only [Weight.tally_append, Weight.tally_cons, hp w, h.tally w, w.other '=' (by decide),
      w.other '>' (by decide), Term.total, Weight.node]
    ring
  · have hbody := h.enough shown
    have hhead := hrequired shown
    rw [extra_eq_zero (Nat.zero_le _)] at hbody ⊢
    rw [Term.total]
    omega

end Accounts

theorem Derives.accounts {l : Level} {s : List Char} {t : Term} (h : Derives l s t) :
    ∃ k, Accounts l s t k := by
  induction h using Derives.induct with
  | atom h => exact ⟨0, h.accounts⟩
  | negative h => exact ⟨0, h.accounts⟩
  | group _ ih =>
    obtain ⟨k, hk⟩ := ih
    exact ⟨k + 1, hk.group⟩
  | member _ hn ih =>
    obtain ⟨k, hk⟩ := ih
    exact ⟨k, hk.member hn⟩
  | index _ _ ih ha =>
    obtain ⟨k, hk⟩ := ih
    obtain ⟨j, hj⟩ := ha.accounts fun _ _ h => h.snd
    exact ⟨k + j, hk.index hj⟩
  | call _ hn hg ih =>
    obtain ⟨k, hk⟩ := ih
    exact ⟨k + 0, hk.call hn hg accountsAll_nil⟩
  | callWith _ hn hg _ ih ha =>
    obtain ⟨k, hk⟩ := ih
    obtain ⟨j, hj⟩ := ha.accounts fun _ _ h => h.snd
    exact ⟨k + j, hk.call hn hg hj⟩
  | lift _ ih =>
    obtain ⟨k, hk⟩ := ih
    exact ⟨k, hk.lift⟩
  | left hop _ _ ih ihr =>
    obtain ⟨j, hj⟩ := ih
    obtain ⟨k, hk⟩ := ihr
    obtain ⟨hl, hr⟩ := slot_of_mem hop
    rw [← hl] at hj
    rw [← hr] at hk
    have h := hj.binary hk
    rw [Level.ofOperator_eq hop] at h
    exact ⟨j + k, h⟩
  | coalesce _ _ ih ihr =>
    obtain ⟨j, hj⟩ := ih
    obtain ⟨k, hk⟩ := ihr
    exact ⟨j + k, @Accounts.binary _ _ k .coalesce _ _ j hj hk⟩
  | conditional _ _ _ ih iha ihb =>
    obtain ⟨i, hi⟩ := ih
    obtain ⟨j, hj⟩ := iha
    obtain ⟨k, hk⟩ := ihb
    exact ⟨i + (j + k), hi.conditional hj hk⟩
  | lambda hp _ ih =>
    rename_i t _
    obtain ⟨j, -, hhead, hrequired⟩ := hp.accounts t
    obtain ⟨k, hk⟩ := ih
    exact ⟨j + k, hk.lambda hhead hrequired⟩

/-! ## Counting without the types -/

theorem level_erase (t : Term) : t.erase.level = t.level := by
  cases t <;> simp [Term.erase, Term.level]

theorem extra_erase (l : Level) (t : Term) : extra l t.erase = extra l t := by
  rw [extra, extra, level_erase]

theorem parentheses_typed (ps : List (Option Ty × String)) : Weight.parentheses.typed ps = 0 := by
  have hblank : Weight.parentheses.of ' ' = 0 := rfl
  simp [Weight.typed, hblank]

theorem total_parentheses_erase (t : Term) :
    t.erase.total Weight.parentheses.node = t.total Weight.parentheses.node := by
  apply Term.total_erase
  intro t
  cases t <;> simp [Term.erase, Weight.node, parentheses_typed]

/-- A parameter that loses its type loses the blank behind it. -/
theorem total_required_erase (shown : Bool) (t : Term) :
    t.erase.total (required shown) - (if shown then t.erase.total Weight.blanks.node else 0) =
      t.total (required shown) - (if shown then t.total Weight.blanks.node else 0) := by
  cases shown with
  | false =>
    have h := Term.total_erase (f := required false) (fun t => by
      cases t <;> simp [Term.erase, required, extra_erase]) t
    simp only [Bool.false_eq_true, if_false, h]
  | true =>
    have h := Term.total_erase (f := fun t => required true t - Weight.blanks.node t) (fun t => by
      cases t with
      | lambda ps body =>
        have hps := typed_add_untyped ps
        have herased := typed_add_untyped (ps.map fun p => (none, p.2))
        rw [List.length_map] at herased
        simp only [Term.erase, required, Weight.node, if_true]
        omega
      | _ => simp [Term.erase, required, Weight.node, extra_erase]) t
    rw [Term.total_sub, Term.total_sub] at h
    simp only [if_true, h]

end Legible.Grammar
