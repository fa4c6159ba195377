import Legible.Proofs.Grammar.Tally
import Legible.Proofs.Grouping

/-!
# Parentheses are minimal

Without one of its pairs the text of a tree is no longer a text of this tree: every phrase for the
tree has at least as many parentheses as the text has, and the blanks tell how many parameters show
their types, so nothing else can make up for the pair.
-/

namespace Legible

open Grammar

namespace Draft

/-- One operand loses its parentheses. -/
inductive Ungroups : Draft → Draft → Prop where
  | here {d : Draft} : Ungroups (.group d) d
  | inside {d d' : Draft} (h : Ungroups d d') : Ungroups (.group d) (.group d')
  | left {a a' : Draft} (b : Draft) (h : Ungroups a a') : Ungroups (.append a b) (.append a' b)
  | right (a : Draft) {b b' : Draft} (h : Ungroups b b') : Ungroups (.append a b) (.append a b')
  | test {node : Expr.Path} {a a' : Draft} (b c : Draft) (h : Ungroups a a') :
      Ungroups (.choice node a b c) (.choice node a' b c)
  | ifTrue {node : Expr.Path} (a : Draft) {b b' : Draft} (c : Draft) (h : Ungroups b b') :
      Ungroups (.choice node a b c) (.choice node a b' c)
  | ifFalse {node : Expr.Path} (a b : Draft) {c c' : Draft} (h : Ungroups c c') :
      Ungroups (.choice node a b c) (.choice node a b c')

theorem Ungroups.tally {d d' : Draft} (h : d.Ungroups d') (w : Weight) :
    w.tally d.flat = w.tally d'.flat + w.of '(' := by
  have hclose : w.of ')' = 0 := w.other ')' (by decide)
  induction h with
  | here =>
    simp only [flat, Weight.tally_cons, Weight.tally_append, Weight.tally_nil, hclose]
    omega
  | inside _ ih =>
    simp only [flat, Weight.tally_cons, Weight.tally_append, ih]
    omega
  | left _ _ ih =>
    simp only [flat, Weight.tally_append, ih]
    omega
  | right _ _ ih =>
    simp only [flat, Weight.tally_append, ih]
    omega
  | test _ _ _ ih =>
    simp only [flat, Weight.tally_cons, Weight.tally_append, ih]
    omega
  | ifTrue _ _ _ ih =>
    simp only [flat, Weight.tally_cons, Weight.tally_append, ih]
    omega
  | ifFalse _ _ _ ih =>
    simp only [flat, Weight.tally_cons, Weight.tally_append, ih]
    omega

theorem tally_joinedTail {w : Weight} {separator : String} (hs : w.tally separator.toList = 0)
    (ds : List Draft) :
    w.tally (joinedTail separator ds).flat = (ds.map fun d => w.tally d.flat).sum := by
  induction ds with
  | nil => rfl
  | cons d rest ih =>
    rw [joinedTail, flat_append, flat_append, flat_token, Weight.tally_append, Weight.tally_append,
      hs, ih, List.map_cons, List.sum_cons]
    omega

theorem tally_joined {w : Weight} {separator : String} (hs : w.tally separator.toList = 0)
    (ds : List Draft) :
    w.tally (joined separator ds).flat = (ds.map fun d => w.tally d.flat).sum := by
  cases ds with
  | nil => rfl
  | cons d rest =>
    rw [joined, flat_append, Weight.tally_append, tally_joinedTail hs, List.map_cons, List.sum_cons]

theorem tally_grouped {d : Draft} {t : Term} {l : Level} {parentheses : Bool}
    (hg : parentheses = true ↔ t.level.rank < l.rank) :
    Weight.parentheses.tally (grouped parentheses d).flat =
      Weight.parentheses.tally d.flat + extra l t := by
  cases parentheses with
  | true =>
    have htally := Ungroups.here.tally (d := .group d) Weight.parentheses
    rw [extra, if_pos (hg.mp rfl)]
    exact htally
  | false =>
    rw [extra, if_neg fun hlt => Bool.false_ne_true (hg.mpr hlt), Int.add_zero]
    rfl

end Draft

namespace Style

variable {style : Style} {e : Expr}

/-- The parentheses that the text for a term has room for. -/
def budget (style : Style) (t : Term) : Int :=
  t.total Weight.parentheses.node + t.total (required style.explicitTypeNames)

def budgetOfAll (style : Style) (ts : List Term) : Int :=
  Term.totalOfAll Weight.parentheses.node ts +
    Term.totalOfAll (required style.explicitTypeNames) ts

section Budgets

variable (style) (t u v : Term)

theorem budget_member (n : String) :
    style.budget (.member t n) = style.budget t + extra .primary t := by
  simp only [budget, Term.total, Weight.node, required]
  omega

theorem budget_index (ts : List Term) :
    style.budget (.index t ts) = style.budget t + extra .primary t + style.budgetOfAll ts := by
  simp only [budget, budgetOfAll, Term.total, Weight.node, required]
  omega

theorem budget_call (method : String) (types : List Ty) (ts : List Term) :
    style.budget (.call t method types ts) =
      style.budget t + extra .primary t + (1 + style.budgetOfAll ts) := by
  have hopen : Weight.parentheses.of '(' = 1 := rfl
  simp only [budget, budgetOfAll, Term.total, Weight.node, required, hopen]
  omega

theorem budget_binary (op : BinaryOp) :
    style.budget (.binary op t u) =
      style.budget t + extra (op.binding.slot .left) t +
        (style.budget u + extra (op.binding.slot .right) u) := by
  have hblank : Weight.parentheses.of ' ' = 0 := rfl
  simp only [budget, Term.total, Weight.node, required, hblank]
  omega

theorem budget_conditional :
    style.budget (.conditional t u v) =
      style.budget t + extra .orElse t +
        (style.budget u + extra .cond u + (style.budget v + extra .cond v)) := by
  have hblank : Weight.parentheses.of ' ' = 0 := rfl
  simp only [budget, Term.total, Weight.node, required, hblank]
  omega

theorem budget_lambda (ps : List (Option Ty × String)) :
    style.budget (.lambda ps t) =
      required style.explicitTypeNames (.lambda ps t) + style.budget t := by
  have hblank : Weight.parentheses.of ' ' = 0 := rfl
  simp only [budget, Term.total, Weight.node, parentheses_typed, hblank]
  omega

end Budgets

/-- Wherever the tree stands, its text keeps to the budget. -/
def Frugal (style : Style) (e : Expr) : Prop :=
  ∀ path, Weight.parentheses.tally (style.draft path e).flat ≤ style.budget (style.term e)

theorem drafts_frugal {es : List Expr} (h : ∀ e ∈ es, style.Frugal e) (path : Expr.Path) (i : Nat) :
    Weight.parentheses.tally (Draft.joined ", " (style.drafts path i es)).flat ≤
      style.budgetOfAll (Expr.terms style.explicitTypeNames style.explicitTypeArguments es) := by
  rw [Draft.tally_joined (by decide), budgetOfAll]
  induction es generalizing i with
  | nil => exact Int.le_refl 0
  | cons e rest ih =>
    obtain ⟨he, hrest⟩ := List.forall_mem_cons.mp h
    have hfirst := he (.argument i :: path)
    have hmore := ih hrest (i + 1)
    rw [budget, term] at hfirst
    rw [drafts, List.map_cons, List.sum_cons, Expr.terms, Term.totalOfAll, Term.totalOfAll]
    omega

/-- Further operands of a sum; the sum so far stands in the place of a sum. -/
theorem operands_frugal {es : List Expr} (h : ∀ e ∈ es, e.Spelled ∧ style.Frugal e) {n : Int}
    {t : Term} (hn : n ≤ style.budget t + extra .sum t) (path : Expr.Path) (i : Nat) :
    n + Weight.parentheses.tally (Draft.joinedTail " + " (style.operands path (i + 1) es)).flat ≤
      style.budget ((es.map style.term).foldl (.binary .add) t) +
        extra .sum ((es.map style.term).foldl (.binary .add) t) := by
  rw [Draft.tally_joinedTail (by decide)]
  induction es generalizing n t i with
  | nil =>
    rw [operands, List.map_nil, List.sum_nil, Int.add_zero]
    exact hn
  | cons e rest ih =>
    obtain ⟨he, hrest⟩ := List.forall_mem_cons.mp h
    have hd := he.2 (.argument (i + 1) :: path)
    have hoperand := Draft.tally_grouped (d := style.draft (.argument (i + 1) :: path) e)
      (style.groups_later_iff he.1)
    have hbudget : style.budget (.binary .add t (style.term e)) = style.budget t + extra .sum t +
        (style.budget (style.term e) + extra .product (style.term e)) := budget_binary style _ _ _
    have hself : 0 ≤ extra .sum (.binary .add t (style.term e)) := (extra_nonneg _ _).1
    have hnext := ih hrest (n := n + Weight.parentheses.tally (Draft.grouped
      (style.groups .concatenation .right e) (style.draft (.argument (i + 1) :: path) e)).flat)
      (t := .binary .add t (style.term e)) (by omega) (i + 1)
    rw [operands, List.map_cons, List.sum_cons, List.map_cons, List.foldl_cons]
    have hside : sumSide (i + 1) = .right := rfl
    rw [hside]
    omega

theorem parameters_frugal (style : Style) {ps : List Parameter}
    (h : ∀ p ∈ ps, isName p.name = true ∧ Ty.parse? p.type.text = some p.type) (b : Term) :
    Weight.parentheses.tally (Draft.parameters style.explicitTypeNames ps).flat ≤
      required style.explicitTypeNames
        (.lambda (ps.map fun p => (if style.explicitTypeNames then some p.type else none, p.name))
          b) := by
  obtain ⟨k, hk, htally, -⟩ :=
    (Draft.parameters_spelled style.explicitTypeNames h).accounts b
  have htally : Weight.parentheses.tally (Draft.parameters style.explicitTypeNames ps).flat = k := by
    rw [htally, parentheses_typed, Int.zero_add]
    exact Int.mul_one k
  rw [htally, required]
  cases hshown : style.explicitTypeNames with
  | true =>
    have hall : untyped (ps.map fun p => (some p.type, p.name)) = 0 := by
      simp [untyped, Function.comp_def]
    simp only [if_true, hall]
    exact hk
  | false =>
    simp only [Bool.false_eq_true, if_false, List.length_map]
    split
    · rename_i hone
      obtain ⟨p, rfl⟩ := List.length_eq_one_iff.mp hone
      have hname := Weight.parentheses.tally_name (h p List.mem_cons_self).1
      rw [hshown] at htally
      exact Int.le_of_eq (htally.symm.trans hname)
    · exact hk

/-! Each node keeps to the budget if its parts do. -/

section Nodes

variable {type : Ty}

theorem frugal_parameter {p : Parameter} (h : style.Speaks (.parameter p)) :
    style.Frugal (.parameter p) := by
  intro path
  rw [draft, Draft.flat_text, Weight.tally_name _ h.self.2]
  exact Int.le_refl 0

theorem frugal_constant {value : Literal} {captured : Option String}
    (h : style.Speaks (.constant value type captured)) :
    style.Frugal (.constant value type captured) := by
  intro path
  obtain ⟨hplain, rfl⟩ := h.self.2
  obtain ⟨text, htext⟩ := constantText_of_passes h.self.1
  have hw := Literal.written_sourceText hplain htext
  have htally : Weight.parentheses.tally text.toList =
      (Term.literal value).total Weight.parentheses.node := by
    rw [Literal.Written] at hw
    split at hw
    · rw [hw.accounts.tally, Int.zero_mul, Int.add_zero]
    · rw [hw.accounts.tally, Int.zero_mul, Int.add_zero]
  simp only [draft, constantWord, htext, Draft.flat_text, htally]
  exact Int.le_of_eq (Int.add_zero _).symm

theorem frugal_property {receiver : Expr} {name : String}
    (h : style.Speaks (.property receiver name type))
    (ih : style.Speaks receiver → style.Frugal receiver) :
    style.Frugal (.property receiver name type) := by
  intro path
  have hr : style.Speaks receiver := h.of_mem_parts (by simp [Expr.parts])
  have hd := ih hr (.receiver :: path)
  have hdot : Weight.parentheses.tally ".".toList = 0 := by decide
  change _ ≤ style.budget (.member (style.term receiver) name)
  simp only [draft, Draft.flat_append, Draft.flat_token, Draft.flat_text, Weight.tally_append,
    Draft.tally_grouped (style.groups_receiver_iff hr.self.2), Weight.tally_name _ h.self.2, hdot,
    budget_member]
  omega

theorem frugal_index {receiver : Expr} {arguments : List Expr}
    (h : style.Speaks (.index receiver arguments type))
    (ihr : style.Speaks receiver → style.Frugal receiver)
    (iha : ∀ a ∈ arguments, style.Speaks a → style.Frugal a) :
    style.Frugal (.index receiver arguments type) := by
  intro path
  have hr : style.Speaks receiver := h.of_mem_parts (by simp [Expr.parts])
  have hd := ihr hr (.receiver :: path)
  have hargs := drafts_frugal
    (fun a ha => iha a ha (h.of_mem_parts (by simp [Expr.parts, ha]))) path 0
  have hopen : Weight.parentheses.tally "[".toList = 0 := by decide
  have hclose : Weight.parentheses.tally "]".toList = 0 := by decide
  change _ ≤ style.budget (.index (style.term receiver) (Expr.terms _ _ arguments))
  simp only [draft, Draft.flat_append, Draft.flat_token, Weight.tally_append,
    Draft.tally_grouped (style.groups_receiver_iff hr.self.2), hopen, hclose, budget_index]
  omega

theorem frugal_binary {op : BinaryOp} {left right : Expr}
    (h : style.Speaks (.binary op left right type))
    (ihl : style.Speaks left → style.Frugal left) (ihr : style.Speaks right → style.Frugal right) :
    style.Frugal (.binary op left right type) := by
  intro path
  have hl : style.Speaks left := h.of_mem_parts (by simp [Expr.parts])
  have hr : style.Speaks right := h.of_mem_parts (by simp [Expr.parts])
  have dl := ihl hl (.left :: path)
  have dr := ihr hr (.right :: path)
  have hblank : Weight.parentheses.tally " ".toList = 0 := by decide
  change _ ≤ style.budget (.binary op (style.term left) (style.term right))
  simp only [draft, Draft.flat_append, Draft.flat_token, Weight.tally_append,
    Draft.tally_grouped (style.groups_operand_iff hl.self.2 op .left),
    Draft.tally_grouped (style.groups_operand_iff hr.self.2 op .right), hblank, Weight.tally_symbol,
    budget_binary]
  omega

theorem frugal_conditional {test ifTrue ifFalse : Expr}
    (h : style.Speaks (.conditional test ifTrue ifFalse type))
    (iht : style.Speaks test → style.Frugal test)
    (iha : style.Speaks ifTrue → style.Frugal ifTrue)
    (ihb : style.Speaks ifFalse → style.Frugal ifFalse) :
    style.Frugal (.conditional test ifTrue ifFalse type) := by
  intro path
  have ht : style.Speaks test := h.of_mem_parts (by simp [Expr.parts])
  have ha : style.Speaks ifTrue := h.of_mem_parts (by simp [Expr.parts])
  have hb : style.Speaks ifFalse := h.of_mem_parts (by simp [Expr.parts])
  have dt := iht ht (.test :: path)
  have da := iha ha (.ifTrue :: path)
  have db := ihb hb (.ifFalse :: path)
  have hmarks : ∀ c ∈ [' ', '?', ':'], Weight.parentheses.of c = 0 := by decide
  change _ ≤ style.budget (.conditional (style.term test) (style.term ifTrue) (style.term ifFalse))
  simp only [draft, Draft.flat, Weight.tally_append, Weight.tally_cons,
    Draft.tally_grouped (style.groups_test_iff ht.self.2),
    Draft.tally_grouped (style.groups_branch_iff ha.self.2),
    Draft.tally_grouped (style.groups_branch_iff hb.self.2), hmarks ' ' (by decide),
    hmarks '?' (by decide), hmarks ':' (by decide), budget_conditional]
  omega

theorem frugal_call {receiver : Expr} {method : String} {declaring : Ty} {types : List Ty}
    {arguments : List Expr}
    (h : style.Speaks (.call receiver method declaring types arguments type))
    (ihr : style.Speaks receiver → style.Frugal receiver)
    (iha : ∀ a ∈ arguments, style.Speaks a → style.Frugal a) :
    style.Frugal (.call receiver method declaring types arguments type) := by
  intro path
  obtain ⟨hname, htypes⟩ := h.self.2
  have hr : style.Speaks receiver := h.of_mem_parts (by simp [Expr.parts])
  have hd := ihr hr (.receiver :: path)
  have hargs := drafts_frugal
    (fun a ha => iha a ha (h.of_mem_parts (by simp [Expr.parts, ha]))) path 0
  have hg := Weight.parentheses.tally_typeArguments
    (Draft.typeArguments_spelled style.explicitTypeArguments htypes)
  have hdot : Weight.parentheses.tally ".".toList = 0 := by decide
  have hopen : Weight.parentheses.tally "(".toList = 1 := by decide
  have hclose : Weight.parentheses.tally ")".toList = 0 := by decide
  change _ ≤ style.budget (.call (style.term receiver) method _ (Expr.terms _ _ arguments))
  simp only [draft, Draft.method, Draft.flat_append, Draft.flat_token, Draft.flat_text,
    Weight.tally_append, Draft.tally_grouped (style.groups_receiver_iff hr.self.2),
    Weight.tally_name _ hname, hg, hdot, hopen, hclose, budget_call]
  omega

/-- Only concatenations are spelled among the calls without a receiver. -/
theorem frugal_staticCall {declaring : Ty} {method : String} {types : List Ty}
    {arguments : List Expr}
    (h : style.Speaks (.staticCall declaring method types arguments type))
    (iha : ∀ a ∈ arguments, style.Speaks a → style.Frugal a) :
    style.Frugal (.staticCall declaring method types arguments type) := by
  intro path
  have hc := h.self.2.1
  have hlevel : (Term.sum (arguments.map style.term)).level = .sum := level_sum (by
    rw [List.length_map]
    exact two_le_length hc)
  have hterm : style.term (.staticCall declaring method types arguments type) =
      .sum (arguments.map style.term) := by
    rw [← terms_eq]
    simp only [term, Expr.term, if_pos hc]
  have hargs : ∀ a ∈ arguments, a.Spelled ∧ style.Frugal a := by
    intro a ha
    have hs : style.Speaks a := h.of_mem_parts ha
    exact ⟨hs.self.2, iha a ha hs⟩
  simp only [draft, if_pos hc, hterm]
  cases arguments with
  | nil => exact (arguments_ne_nil hc rfl).elim
  | cons a rest =>
    obtain ⟨ha, hrest⟩ := List.forall_mem_cons.mp hargs
    have hd := ha.2 (.argument 0 :: path)
    have hfirst := Draft.tally_grouped (d := style.draft (.argument 0 :: path) a)
      (style.groups_first_iff ha.1)
    have hsum := operands_frugal hrest (hfirst.le.trans (Int.add_le_add_right hd _)) path 0
    have hextra : extra .sum (.sum ((a :: rest).map style.term)) = 0 :=
      extra_eq_zero (Nat.le_of_eq (congrArg Level.rank hlevel.symm))
    rw [operands, Draft.joined, Draft.flat_append, Weight.tally_append]
    rw [List.map_cons, Term.sum] at hextra ⊢
    rw [hextra, Int.add_zero] at hsum
    exact hsum

theorem frugal_lambda {parameters : List Parameter} {body : Expr}
    (h : style.Speaks (.lambda parameters body type))
    (ih : style.Speaks body → style.Frugal body) : style.Frugal (.lambda parameters body type) := by
  intro path
  have hb : style.Speaks body := h.of_mem_parts (by simp [Expr.parts])
  have hd := ih hb (.body :: path)
  have hps := style.parameters_frugal h.self.2 (style.term body)
  have harrow : Weight.parentheses.tally " => ".toList = 0 := by decide
  change _ ≤ style.budget (.lambda _ (style.term body))
  simp only [draft, Draft.flat_append, Draft.flat_token, Weight.tally_append, harrow,
    budget_lambda]
  omega

end Nodes

theorem frugal_of_speaks (h : style.Speaks e) : style.Frugal e := by
  induction e using Expr.induction with
  | parameter p => exact frugal_parameter h
  | constant value type captured => exact frugal_constant h
  | property receiver name type ih => exact frugal_property h ih
  | index receiver arguments type ihr iha => exact frugal_index h ihr iha
  | binary op left right type ihl ihr => exact frugal_binary h ihl ihr
  | conditional test ifTrue ifFalse type iht iha ihb => exact frugal_conditional h iht iha ihb
  | call receiver method declaring types arguments type ihr iha => exact frugal_call h ihr iha
  | staticCall declaring method types arguments type iha => exact frugal_staticCall h iha
  | lambda parameters body type ih => exact frugal_lambda h ih

theorem erase_ne_of_ungroups (h : style.Speaks e) {d : Draft} (hd : (style.draft [] e).Ungroups d)
    {t : Term} (ht : Derives .expr d.flat t) : t.erase ≠ e.erased := by
  intro heq
  have herase : t.erase = (style.term e).erase := heq.trans (e.erase_term _ _).symm
  obtain ⟨k, hk⟩ := ht.accounts
  obtain ⟨k₀, hk₀⟩ := (derives_draft h []).accounts
  -- the blanks show that both texts have as many types in front of parameters
  have hblanks : t.total Weight.blanks.node = (style.term e).total Weight.blanks.node := by
    have hd := hd.tally Weight.blanks
    have hzero : Weight.blanks.of '(' = 0 := rfl
    rw [hk.tally, hk₀.tally, hzero] at hd
    omega
  -- one pair is missing from those that are groups or stand around parameters
  have hpairs : k₀ = k + 1 := by
    have hd := hd.tally Weight.parentheses
    have hone : Weight.parentheses.of '(' = 1 := rfl
    rw [hk.tally, hk₀.tally, hone, ← total_parentheses_erase t, herase,
      total_parentheses_erase] at hd
    omega
  have hroom : k₀ ≤ (style.term e).total (required style.explicitTypeNames) := by
    have hbudget := frugal_of_speaks h []
    have hone : Weight.parentheses.of '(' = 1 := rfl
    rw [hk₀.tally, hone, budget] at hbudget
    omega
  have hneed : (style.term e).total (required style.explicitTypeNames) ≤ k := by
    have hterm := total_required_erase style.explicitTypeNames t
    have hterm₀ := total_required_erase style.explicitTypeNames (style.term e)
    have henough := hk.enough style.explicitTypeNames
    rw [extra_eq_zero (Nat.zero_le _)] at henough
    rw [herase, hterm₀, hblanks] at hterm
    omega
  omega

end Style

/-! ## Chains -/

namespace Draft

def pairs : Draft → Nat
  | .token _ => 0
  | .text _ => 0
  | .append a b => pairs a + pairs b
  | .group d => pairs d + 1
  | .choice _ test ifTrue ifFalse => pairs test + (pairs ifTrue + pairs ifFalse)

@[simp] theorem pairs_append (a b : Draft) : (a ++ b).pairs = a.pairs + b.pairs := rfl

@[simp] theorem pairs_token (t : String) : (token t).pairs = 0 := rfl

@[simp] theorem pairs_choice (node : Expr.Path) (a b c : Draft) :
    (choice node a b c).pairs = a.pairs + (b.pairs + c.pairs) := rfl

theorem pairs_grouped (parentheses : Bool) (d : Draft) :
    (grouped parentheses d).pairs = d.pairs + if parentheses then 1 else 0 := by
  cases parentheses <;> rfl

theorem pairs_joinedTail (separator : String) (ds : List Draft) :
    (joinedTail separator ds).pairs = (ds.map pairs).sum := by
  induction ds with
  | nil => rfl
  | cons d rest ih =>
    rw [joinedTail, pairs_append, pairs_append, pairs_token, ih, List.map_cons, List.sum_cons]
    omega

theorem pairs_joined (separator : String) (ds : List Draft) :
    (joined separator ds).pairs = (ds.map pairs).sum := by
  cases ds with
  | nil => rfl
  | cons d rest => rw [joined, pairs_append, pairs_joinedTail, List.map_cons, List.sum_cons]

end Draft

namespace Style

variable {style : Style}

def pairs (style : Style) (e : Expr) : Nat := (style.draft [] e).pairs

/-- The pairs in the text of an operand, with the one around it. -/
def operandPairs (style : Style) (parent : Binding) (side : Side) (e : Expr) : Nat :=
  style.pairs e + if style.groups parent side e then 1 else 0

section Lists

variable {es : List Expr} (h : ∀ e ∈ es, ∀ path, (style.draft path e).pairs = style.pairs e)
include h

theorem pairs_drafts (path : Expr.Path) (i : Nat) :
    (style.drafts path i es).map Draft.pairs = es.map style.pairs := by
  induction es generalizing i with
  | nil => rfl
  | cons e rest ih =>
    obtain ⟨he, hrest⟩ := List.forall_mem_cons.mp h
    rw [drafts, List.map_cons, List.map_cons, he, ih hrest]

theorem pairs_operands_succ (path : Expr.Path) (i : Nat) :
    (style.operands path (i + 1) es).map Draft.pairs =
      es.map (style.operandPairs .concatenation .right) := by
  induction es generalizing i with
  | nil => rfl
  | cons e rest ih =>
    obtain ⟨he, hrest⟩ := List.forall_mem_cons.mp h
    rw [operands, List.map_cons, List.map_cons, Draft.pairs_grouped, he, ih hrest]
    rfl

theorem pairs_operands (path : Expr.Path) :
    (style.operands path 0 es).map Draft.pairs =
      (es.take 1).map (style.operandPairs .concatenation .left) ++
        (es.drop 1).map (style.operandPairs .concatenation .right) := by
  cases es with
  | nil => rfl
  | cons e rest =>
    obtain ⟨he, hrest⟩ := List.forall_mem_cons.mp h
    rw [operands, List.map_cons, Draft.pairs_grouped, he, pairs_operands_succ hrest]
    rfl

end Lists

/-- The pairs do not depend on where the tree stands. -/
theorem pairs_draft (path : Expr.Path) (e : Expr) : (style.draft path e).pairs = style.pairs e := by
  induction e using Expr.induction generalizing path with
  | parameter p => rfl
  | constant value type captured => rfl
  | property receiver name type ih =>
    rw [pairs, draft, draft]
    simp only [Draft.pairs_append, Draft.pairs_grouped, ih]
  | index receiver arguments type ihr iha =>
    rw [pairs, draft, draft]
    simp only [Draft.pairs_append, Draft.pairs_grouped, Draft.pairs_joined, ihr, pairs_drafts iha]
  | binary op left right type ihl ihr =>
    rw [pairs, draft, draft]
    simp only [Draft.pairs_append, Draft.pairs_grouped, ihl, ihr]
  | conditional test ifTrue ifFalse type iht iha ihb =>
    rw [pairs, draft, draft]
    simp only [Draft.pairs_choice, Draft.pairs_grouped, iht, iha, ihb]
  | call receiver method declaring types arguments type ihr iha =>
    rw [pairs, draft, draft]
    simp only [Draft.pairs_append, Draft.pairs_grouped, Draft.pairs_joined, ihr, pairs_drafts iha]
  | staticCall declaring method types arguments type iha =>
    rw [pairs, draft, draft]
    split
    · simp only [Draft.pairs_joined, pairs_operands iha]
    · simp only [Draft.pairs_append, Draft.pairs_joined, pairs_drafts iha]
  | lambda parameters body type ih =>
    rw [pairs, draft, draft]
    simp only [Draft.pairs_append, ih]

theorem pairs_conditional (style : Style) (test ifTrue ifFalse : Expr) (type : Ty) :
    style.pairs (.conditional test ifTrue ifFalse type) =
      style.operandPairs .conditional .left test + style.operandPairs .conditional .right ifTrue +
        style.operandPairs .conditional .right ifFalse := by
  rw [pairs, draft]
  simp only [Draft.pairs_choice, Draft.pairs_grouped, pairs_draft, operandPairs]
  omega

theorem pairs_binary (style : Style) (op : BinaryOp) (left right : Expr) (type : Ty) :
    style.pairs (.binary op left right type) =
      style.operandPairs op.binding .left left + style.operandPairs op.binding .right right := by
  rw [pairs, draft]
  simp only [Draft.pairs_append, Draft.pairs_grouped, pairs_draft, operandPairs]
  rfl

theorem pairs_concatenation (style : Style) {declaring type : Ty} {method : String} {types : List Ty}
    {first : Expr} {rest : List Expr}
    (h : (Expr.staticCall declaring method types (first :: rest) type).isConcatenation = true) :
    style.pairs (.staticCall declaring method types (first :: rest) type) =
      style.operandPairs .concatenation .left first +
        (rest.map (style.operandPairs .concatenation .right)).sum := by
  rw [pairs, draft, if_pos h, Draft.pairs_joined, pairs_operands fun e _ path => pairs_draft path e]
  rfl

end Style

namespace Expr

def conditionals (links : List (Expr × Expr × Ty)) (last : Expr) : Expr :=
  links.foldr (fun link rest => .conditional link.1 link.2.1 rest link.2.2) last

def leftward (first : Expr) (links : List (BinaryOp × Expr × Ty)) : Expr :=
  links.foldl (fun left link => .binary link.1 left link.2.1 link.2.2) first

def coalesces (links : List (Expr × Ty)) (last : Expr) : Expr :=
  links.foldr (fun link rest => .binary .coalesce link.1 rest link.2) last

def concatenations (first : Expr) (links : List (List Ty × List Expr × Ty)) : Expr :=
  links.foldl
    (fun left link => .staticCall .string "Concat" link.1 (left :: link.2.1) link.2.2) first

end Expr

namespace Style

/-- The pairs in a chain are those in and around the operands that are no links of it. -/
structure ChainsBare (style : Style) : Prop where
  conditionals : ∀ links last, links ≠ [] →
    style.pairs (Expr.conditionals links last) =
      (links.map fun link => style.operandPairs .conditional .left link.1 +
        style.operandPairs .conditional .right link.2.1).sum +
        style.operandPairs .conditional .right last
  leftward : ∀ (b : Binding) first links, b.associativity = .left → links ≠ [] →
    (∀ link ∈ links, BinaryOp.binding link.1 = b) →
    style.pairs (Expr.leftward first links) =
      style.operandPairs b .left first +
        (links.map fun link => style.operandPairs b .right link.2.1).sum
  coalesces : ∀ links last, links ≠ [] →
    style.pairs (Expr.coalesces links last) =
      (links.map fun link => style.operandPairs BinaryOp.coalesce.binding .left link.1).sum +
        style.operandPairs BinaryOp.coalesce.binding .right last
  concatenations : ∀ first links, links ≠ [] →
    (∀ n < links.length, (Expr.concatenations first (links.take (n + 1))).isConcatenation = true) →
    style.pairs (Expr.concatenations first links) =
      style.operandPairs .concatenation .left first +
        (links.map fun link =>
          (link.2.1.map (style.operandPairs .concatenation .right)).sum).sum

theorem operandPairs_of_bare {style : Style} {parent : Binding} {side : Side} {e : Expr}
    (h : style.groups parent side e = false) : style.operandPairs parent side e = style.pairs e := by
  rw [operandPairs, h]
  rfl

theorem operandPairs_conditionals (style : Style) (links : List (Expr × Expr × Ty)) (last : Expr) :
    style.operandPairs .conditional .right (Expr.conditionals links last) =
      (links.map fun link => style.operandPairs .conditional .left link.1 +
        style.operandPairs .conditional .right link.2.1).sum +
        style.operandPairs .conditional .right last := by
  induction links with
  | nil => exact (Nat.zero_add _).symm
  | cons link rest ih =>
    have hbare : style.groups .conditional .right
        (.conditional link.1 link.2.1 (Expr.conditionals rest last) link.2.2) = false := rfl
    change style.operandPairs .conditional .right (.conditional _ _ (Expr.conditionals rest last) _) = _
    rw [operandPairs_of_bare hbare, pairs_conditional, ih, List.map_cons, List.sum_cons]
    omega

theorem operandPairs_leftward (style : Style) {b : Binding} (hb : b.associativity = .left)
    (first : Expr) (links : List (BinaryOp × Expr × Ty))
    (h : ∀ link ∈ links, BinaryOp.binding link.1 = b) :
    style.operandPairs b .left (Expr.leftward first links) =
      style.operandPairs b .left first +
        (links.map fun link => style.operandPairs b .right link.2.1).sum := by
  induction links generalizing first with
  | nil => rfl
  | cons link rest ih =>
    obtain ⟨hlink, hrest⟩ := List.forall_mem_cons.mp h
    have hbare : style.groups b .left (.binary link.1 first link.2.1 link.2.2) = false := by
      simp only [groups, strengthOf_binary, hlink, Binding.groups, if_true, hb]
    have hnext := ih (.binary link.1 first link.2.1 link.2.2) hrest
    rw [operandPairs_of_bare hbare, pairs_binary, hlink] at hnext
    rw [List.map_cons, List.sum_cons]
    exact hnext.trans (Nat.add_assoc _ _ _)

theorem operandPairs_coalesces (style : Style) (links : List (Expr × Ty)) (last : Expr) :
    style.operandPairs BinaryOp.coalesce.binding .right (Expr.coalesces links last) =
      (links.map fun link => style.operandPairs BinaryOp.coalesce.binding .left link.1).sum +
        style.operandPairs BinaryOp.coalesce.binding .right last := by
  induction links with
  | nil => exact (Nat.zero_add _).symm
  | cons link rest ih =>
    have hbare : style.groups BinaryOp.coalesce.binding .right
        (.binary .coalesce link.1 (Expr.coalesces rest last) link.2) = false := rfl
    change style.operandPairs _ .right (.binary .coalesce _ (Expr.coalesces rest last) _) = _
    rw [operandPairs_of_bare hbare, pairs_binary, ih, List.map_cons, List.sum_cons]
    omega

theorem operandPairs_concatenations (style : Style) (first : Expr)
    (links : List (List Ty × List Expr × Ty))
    (h : ∀ n < links.length,
      (Expr.concatenations first (links.take (n + 1))).isConcatenation = true) :
    style.operandPairs .concatenation .left (Expr.concatenations first links) =
      style.operandPairs .concatenation .left first +
        (links.map fun link =>
          (link.2.1.map (style.operandPairs .concatenation .right)).sum).sum := by
  induction links generalizing first with
  | nil => rfl
  | cons link rest ih =>
    have hc : (Expr.staticCall .string "Concat" link.1 (first :: link.2.1) link.2.2).isConcatenation =
        true := h 0 (Nat.zero_lt_succ _)
    have hbare : style.groups .concatenation .left
        (.staticCall .string "Concat" link.1 (first :: link.2.1) link.2.2) = false := by
      simp only [groups, strengthOf_staticCall, if_pos hc]
      rfl
    have hnext := ih (.staticCall .string "Concat" link.1 (first :: link.2.1) link.2.2)
      fun n hn => h (n + 1) (Nat.succ_lt_succ hn)
    rw [operandPairs_of_bare hbare, pairs_concatenation style hc] at hnext
    rw [List.map_cons, List.sum_cons]
    exact hnext.trans (Nat.add_assoc _ _ _)

theorem chainsBare (style : Style) : style.ChainsBare where
  conditionals links last hne := by
    cases links with
    | nil => exact (hne rfl).elim
    | cons link rest =>
      rw [← operandPairs_conditionals]
      exact (operandPairs_of_bare rfl).symm
  leftward b first links hb hne h := by
    rw [← operandPairs_leftward style hb first links h]
    obtain rfl | ⟨init, link, rfl⟩ := List.eq_nil_or_concat links
    · exact (hne rfl).elim
    · have hlink : link.1.binding = b := h link (by simp)
      refine (operandPairs_of_bare ?_).symm
      rw [Expr.leftward, List.concat_eq_append, List.foldl_append]
      simp only [List.foldl_cons, List.foldl_nil, groups, strengthOf_binary, hlink,
        Binding.groups, if_true, hb]
  coalesces links last hne := by
    cases links with
    | nil => exact (hne rfl).elim
    | cons link rest =>
      rw [← operandPairs_coalesces]
      exact (operandPairs_of_bare rfl).symm
  concatenations first links hne h := by
    rw [← operandPairs_concatenations style first links h]
    have hpos := List.length_pos_iff.mpr hne
    have hc := h (links.length - 1) (by omega)
    rw [Nat.sub_add_cancel hpos, List.take_length] at hc
    obtain rfl | ⟨init, link, rfl⟩ := List.eq_nil_or_concat links
    · exact (hne rfl).elim
    · refine (operandPairs_of_bare ?_).symm
      rw [Expr.concatenations, List.concat_eq_append, List.foldl_append] at hc ⊢
      simp only [List.foldl_cons, List.foldl_nil] at hc ⊢
      simp only [groups, strengthOf_staticCall, if_pos hc]
      rfl

end Style

theorem render_parentheses_all_needed (style : Style) (e : Expr) (hs : ∀ n ∈ e.nodes, n.Spelled)
    (hw : style.lineWidth = none) (text : String) (h : render style e = .ok text) :
    text = String.ofList (style.draft [] e).flat ∧
      (∀ d, (style.draft [] e).Ungroups d →
        ∀ t, Parses (String.ofList d.flat) t → t.erase ≠ e.erased) ∧
      style.ChainsBare := by
  refine ⟨?_, ?_, style.chainsBare⟩
  · rw [← toList_of_render_ok hs hw h, String.ofList_toList]
  · intro d hd t ht
    rw [Parses, String.toList_ofList] at ht
    exact Style.erase_ne_of_ungroups (.of_render_ok hs h) hd ht

/-- Without its parentheses this text can still be read, but as another tree. -/
theorem render_parentheses_all_needed_difference :
    ∃ e : Expr, (∀ n ∈ e.nodes, n.Spelled) ∧ render {} e = .ok "x - (y - z)" ∧
      "x - (y - z)" = String.ofList (Style.draft {} [] e).flat ∧ Style.ChainsBare {} ∧
      ∃ d, (Style.draft {} [] e).Ungroups d ∧ String.ofList d.flat = "x - y - z" ∧
        ∀ t, Parses "x - y - z" t → t.erase ≠ e.erased := by
  let e : Expr := .binary .subtract (.parameter ⟨"x", .int⟩)
    (.binary .subtract (.parameter ⟨"y", .int⟩) (.parameter ⟨"z", .int⟩) .int) .int
  have hs : ∀ n ∈ e.nodes, n.Spelled := by decide
  have h : render {} e = .ok "x - (y - z)" := by decide
  obtain ⟨htext, hneeded, hchains⟩ := render_parentheses_all_needed {} e hs rfl _ h
  have hd : (Style.draft {} [] e).Ungroups _ := .right _ .here
  exact ⟨e, hs, h, htext, hchains, _, hd, by decide, hneeded _ hd⟩

end Legible
