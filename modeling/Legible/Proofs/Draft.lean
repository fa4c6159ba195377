import Legible.Proofs.Nodes
import Legible.Proofs.OperatorTable

/-!
# Drafts

The draft of a tree is its text before the layout is decided: what is written, which operands stand
in parentheses, and where the conditionals are. Writing a tree is checking its nodes and then putting
its draft on the page, whatever the page and the line width are.
-/

namespace Legible

namespace Expr

inductive Step where
  | receiver
  | argument (i : Nat)
  | left
  | right
  | test
  | ifTrue
  | ifFalse
  | body
deriving DecidableEq

/-- The way from the root to a node, the last step first. -/
abbrev Path := List Step

end Expr

inductive Draft where
  | token (t : String)
  | text (s : String)
  | append (a b : Draft)
  /-- An operand in parentheses. -/
  | group (d : Draft)
  /-- The conditional at that place of the tree. -/
  | choice (node : Expr.Path) (test ifTrue ifFalse : Draft)

namespace Draft

instance : Append Draft := ⟨append⟩

def empty : Draft := .text ""

def grouped (parentheses : Bool) (d : Draft) : Draft := if parentheses then .group d else d

def joinedTail (separator : String) : List Draft → Draft
  | [] => empty
  | d :: rest => .token separator ++ d ++ joinedTail separator rest

def joined (separator : String) : List Draft → Draft
  | [] => empty
  | d :: rest => d ++ joinedTail separator rest

def parameter (explicit : Bool) (p : Parameter) : Draft :=
  if explicit then .text p.type.text ++ .token " " ++ .text p.name else .text p.name

/-- A lone parameter without its type stands bare. -/
def parameters (explicit : Bool) (ps : List Parameter) : Draft :=
  match explicit, ps with
  | false, [p] => .text p.name
  | _, _ => .token "(" ++ joined ", " (ps.map (parameter explicit)) ++ .token ")"

def typeArguments : List Ty → Draft
  | [] => empty
  | t :: rest => .token "<" ++ joined ", " ((t :: rest).map fun t => .text t.text) ++ .token ">"

def method (explicit : Bool) (name : String) (types : List Ty) : Draft :=
  .token "." ++ .text name ++ (if explicit then typeArguments types else empty)

def putFlat (test ifTrue ifFalse : Page → Page) (page : Page) : Page :=
  ifFalse ((ifTrue ((test page).token " ? ")).token " : ")

def putBroken (test ifTrue ifFalse : Page → Page) (page : Page) : Page :=
  let tested := test page
  let page := ifTrue (tested.indent.newLine.token "? ")
  (ifFalse (page.newLine.token ": ")).restoreDepth tested

/-- Writes a draft; a conditional that would pass the width is broken. -/
def put (unit : String) : Option Nat → Draft → Page → Page
  | _, .token t, page => page.token t
  | _, .text s, page => page.text s
  | width, .append a b, page => put unit width b (put unit width a page)
  | width, .group d, page => (put unit width d (page.token "(")).token ")"
  | none, .choice _ test ifTrue ifFalse, page =>
    putFlat (put unit none test) (put unit none ifTrue) (put unit none ifFalse) page
  | some width, .choice _ test ifTrue ifFalse, page =>
    let line := putFlat (put unit none test) (put unit none ifTrue) (put unit none ifFalse)
      { indentUnit := unit }
    if width < page.column + line.column then
      putBroken (put unit (some width) test) (put unit (some width) ifTrue)
        (put unit (some width) ifFalse) page
    else
      putFlat (put unit (some width) test) (put unit (some width) ifTrue)
        (put unit (some width) ifFalse) page
termination_by structural _ d => d

end Draft

namespace Style

def constantWord (style : Style) (value : Literal) (type : Ty) (captured : Option String) :
    String :=
  match style.constantText value type captured with
  | .ok text => text
  | .error _ => ""

/-- The side of an operand in a sum of several: only the first stands on the left. -/
def sumSide (i : Nat) : Side := if i = 0 then .left else .right

mutual

def draft (style : Style) : Expr.Path → Expr → Draft
  | _, .parameter p => .text p.name
  | _, .constant value type captured => .text (style.constantWord value type captured)
  | path, .property receiver name _ =>
    .grouped (style.groups .memberAccess .left receiver) (draft style (.receiver :: path) receiver)
      ++ .token "." ++ .text name
  | path, .index receiver arguments _ =>
    .grouped (style.groups .memberAccess .left receiver) (draft style (.receiver :: path) receiver)
      ++ .token "[" ++ .joined ", " (drafts style path 0 arguments) ++ .token "]"
  | path, .binary op left right _ =>
    .grouped (style.groups op.binding .left left) (draft style (.left :: path) left)
      ++ .token " " ++ .token op.symbol ++ .token " "
      ++ .grouped (style.groups op.binding .right right) (draft style (.right :: path) right)
  | path, .conditional test ifTrue ifFalse _ =>
    .choice path
      (.grouped (style.groups .conditional .left test) (draft style (.test :: path) test))
      (.grouped (style.groups .conditional .right ifTrue) (draft style (.ifTrue :: path) ifTrue))
      (.grouped (style.groups .conditional .right ifFalse)
        (draft style (.ifFalse :: path) ifFalse))
  | path, .call receiver method _ types arguments _ =>
    .grouped (style.groups .memberAccess .left receiver) (draft style (.receiver :: path) receiver)
      ++ .method style.explicitTypeArguments method types
      ++ .token "(" ++ .joined ", " (drafts style path 0 arguments) ++ .token ")"
  | path, .staticCall declaring method types arguments type =>
    if (Expr.staticCall declaring method types arguments type).isConcatenation then
      .joined " + " (operands style path 0 arguments)
    else
      .text declaring.text ++ .method style.explicitTypeArguments method types
        ++ .token "(" ++ .joined ", " (drafts style path 0 arguments) ++ .token ")"
  | path, .lambda parameters body _ =>
    .parameters style.explicitTypeNames parameters ++ .token " => "
      ++ draft style (.body :: path) body
termination_by structural _ e => e

def drafts (style : Style) : Expr.Path → Nat → List Expr → List Draft
  | _, _, [] => []
  | path, i, e :: rest => draft style (.argument i :: path) e :: drafts style path (i + 1) rest
termination_by structural _ _ es => es

def operands (style : Style) : Expr.Path → Nat → List Expr → List Draft
  | _, _, [] => []
  | path, i, e :: rest =>
    .grouped (style.groups .concatenation (sumSide i) e) (draft style (.argument i :: path) e)
      :: operands style path (i + 1) rest
termination_by structural _ _ es => es

end

theorem flat_fault? (style : Style) (e : Expr) : style.flat.fault? e = style.fault? e := by
  cases e <;> rfl

theorem flat_firstFault? (style : Style) (es : List Expr) :
    style.flat.firstFault? es = style.firstFault? es := by
  unfold firstFault?
  rw [show style.flat.fault? = style.fault? from funext style.flat_fault?]

theorem drafts_congr {style other : Style} {es : List Expr}
    (h : ∀ e ∈ es, ∀ path, other.draft path e = style.draft path e) (path : Expr.Path) (i : Nat) :
    other.drafts path i es = style.drafts path i es := by
  induction es generalizing i with
  | nil => rfl
  | cons e rest ih =>
    simp only [drafts]
    rw [h e List.mem_cons_self, ih fun a ha => h a (List.mem_cons_of_mem e ha)]

theorem operands_congr {style other : Style} {es : List Expr}
    (hg : ∀ parent side e, other.groups parent side e = style.groups parent side e)
    (h : ∀ e ∈ es, ∀ path, other.draft path e = style.draft path e) (path : Expr.Path) (i : Nat) :
    other.operands path i es = style.operands path i es := by
  induction es generalizing i with
  | nil => rfl
  | cons e rest ih =>
    simp only [operands]
    rw [hg, h e List.mem_cons_self, ih fun a ha => h a (List.mem_cons_of_mem e ha)]

/-- A draft does not depend on the line width or the indentation. -/
theorem draft_congr {style other : Style}
    (hn : other.explicitTypeNames = style.explicitTypeNames)
    (ht : other.explicitTypeArguments = style.explicitTypeArguments)
    (hc : other.showCaptured = style.showCaptured) (e : Expr) (path : Expr.Path) :
    other.draft path e = style.draft path e := by
  have hg : ∀ parent side e, other.groups parent side e = style.groups parent side e := by
    intro parent side e
    unfold groups
    rw [strengthOf_congr hc]
  induction e using Expr.induction generalizing path with
  | parameter p => rfl
  | constant value type captured => simp only [draft, constantWord, constantText, hn, hc]
  | property receiver name type ih => simp only [draft, hg, ih]
  | index receiver arguments type ihr iha => simp only [draft, hg, ihr, drafts_congr iha]
  | binary op left right type ihl ihr => simp only [draft, hg, ihl, ihr]
  | conditional test ifTrue ifFalse type iht iha ihb => simp only [draft, hg, iht, iha, ihb]
  | call receiver method declaring types arguments type ihr iha =>
    simp only [draft, hg, ht, ihr, drafts_congr iha]
  | staticCall declaring method types arguments type iha =>
    simp only [draft, ht, drafts_congr iha, operands_congr hg iha]
  | lambda parameters body type ih => simp only [draft, hn, ih]

theorem draft_flat (style : Style) (path : Expr.Path) (e : Expr) :
    style.flat.draft path e = style.draft path e := by
  apply draft_congr <;> rfl

end Style

def orFault {α : Type} (a : α) : Option Error → Except Error α
  | none => .ok a
  | some fault => .error fault

theorem orFault_map {α β : Type} (a : α) (f : α → β) (fault : Option Error) :
    (orFault a fault).map f = orFault (f a) fault := by
  cases fault <;> rfl

theorem orFault_bind_pure {α β : Type} (a : α) (f : α → β) (fault : Option Error) :
    (orFault a fault >>= fun a => pure (f a)) = orFault (f a) fault := by
  cases fault <;> rfl

/-- The faults of two steps, one after the other. -/
theorem orFault_bind {α β : Type} (a : α) (b : α → β) (fault later : Option Error) :
    (orFault a fault >>= fun a => orFault (b a) later) = orFault (b a) (fault.or later) := by
  cases fault <;> rfl

/-- A step that is taken only to choose between two that end in the same fault. -/
theorem orFault_measured {α β : Type} (a : α) (c : α → Prop) [DecidablePred c] (x y : β)
    (fault : Option Error) :
    (orFault a fault >>= fun a => if c a then orFault x fault else orFault y fault) =
      orFault (if c a then x else y) fault := by
  cases fault with
  | some _ => rfl
  | none =>
    change (if c a then _ else _) = _
    split <;> rfl

theorem checkNode_bind {α : Type} (style : Style) (e : Expr) (a : α) (later : Option Error) :
    (style.checkNode e >>= fun _ => orFault a later) = orFault a ((style.fault? e).or later) := by
  unfold Style.fault?
  cases style.checkNode e <;> rfl

theorem grouped_eq {unit : String} {width : Option Nat} {d : Draft} {fault : Option Error}
    {body : Page → Except Error Page}
    (h : ∀ page, body page = orFault (d.put unit width page) fault) (parentheses : Bool)
    (page : Page) :
    page.grouped parentheses body =
      orFault ((Draft.grouped parentheses d).put unit width page) fault := by
  cases parentheses with
  | false => exact h page
  | true =>
    change (body (page.token "(")).map (fun page => page.token ")") = _
    rw [h, orFault_map]
    rfl

namespace Draft

variable (unit : String) (width : Option Nat)

@[simp] theorem put_append (a b : Draft) (page : Page) :
    (a ++ b).put unit width page = b.put unit width (a.put unit width page) := rfl

@[simp] theorem put_token (t : String) (page : Page) :
    (Draft.token t).put unit width page = page.token t := rfl

@[simp] theorem put_text (s : String) (page : Page) :
    (Draft.text s).put unit width page = page.text s := rfl

@[simp] theorem put_empty (page : Page) : empty.put unit width page = page := by
  change page.text "" = page
  simp [Page.text]

theorem put_joined_cons (separator : String) (d : Draft) (rest : List Draft) (page : Page) :
    (joined separator (d :: rest)).put unit width page =
      (joinedTail separator rest).put unit width (d.put unit width page) := rfl

theorem put_joinedTail_cons (separator : String) (d : Draft) (rest : List Draft) (page : Page) :
    (joinedTail separator (d :: rest)).put unit width page =
      (joinedTail separator rest).put unit width (d.put unit width (page.token separator)) := rfl

theorem put_parameter (explicit : Bool) (p : Parameter) (page : Page) :
    (parameter explicit p).put unit width page = page.writeParameter explicit p := by
  cases explicit <;> rfl

theorem put_moreParameters (explicit : Bool) (ps : List Parameter) (page : Page) :
    (joinedTail ", " (ps.map (parameter explicit))).put unit width page =
      page.writeMoreParameters explicit ps := by
  induction ps generalizing page with
  | nil => exact put_empty unit width page
  | cons p rest ih =>
    rw [List.map_cons, put_joinedTail_cons, ih, put_parameter, Page.writeMoreParameters]

/-- The parenthesised list, whatever is in it. -/
theorem put_parenthesised (explicit : Bool) (p : Parameter) (rest : List Parameter) (page : Page) :
    (.token "(" ++ joined ", " ((p :: rest).map (parameter explicit)) ++ .token ")" : Draft).put
        unit width page =
      (Page.writeMoreParameters explicit (Page.writeParameter explicit (page.token "(") p)
        rest).token ")" := by
  simp only [List.map_cons, put_append, put_token, put_joined_cons, put_moreParameters,
    put_parameter]

theorem put_parameters (explicit : Bool) (ps : List Parameter) (page : Page) :
    (parameters explicit ps).put unit width page = page.writeParameters explicit ps := by
  cases ps with
  | nil => cases explicit <;> exact congrArg (Page.token · ")") (put_empty unit width _)
  | cons p rest =>
    cases explicit with
    | true => exact put_parenthesised unit width true p rest page
    | false =>
      cases rest with
      | nil => rfl
      | cons q rest => exact put_parenthesised unit width false p (q :: rest) page

theorem put_moreTypes (ts : List Ty) (page : Page) :
    (joinedTail ", " (ts.map fun t => .text t.text)).put unit width page =
      page.writeMoreTypes ts := by
  induction ts generalizing page with
  | nil => exact put_empty unit width page
  | cons t rest ih =>
    rw [List.map_cons, put_joinedTail_cons, ih, put_text, Page.writeMoreTypes]

theorem put_typeArguments (ts : List Ty) (page : Page) :
    (typeArguments ts).put unit width page = page.writeTypeArguments ts := by
  cases ts with
  | nil => exact put_empty unit width page
  | cons t rest =>
    simp only [typeArguments, List.map_cons, put_append, put_token, put_joined_cons,
      put_moreTypes, put_text, Page.writeTypeArguments]

theorem put_method (explicit : Bool) (name : String) (types : List Ty) (page : Page) :
    (method explicit name types).put unit width page = page.writeMethod explicit name types := by
  cases explicit with
  | false => exact put_empty unit width _
  | true => exact put_typeArguments unit width types _

end Draft

section Lists

variable {style : Style} {es : List Expr}
  (h : ∀ e ∈ es, ∀ path page, write style e page =
    orFault ((style.draft path e).put style.indentUnit style.lineWidth page)
      (style.firstFault? e.nodes))
include h

theorem writeMoreArguments_eq (path : Expr.Path) (i : Nat) (page : Page) :
    writeMoreArguments style es page =
      orFault ((Draft.joinedTail ", " (style.drafts path i es)).put style.indentUnit
        style.lineWidth page) (style.firstFault? (es.flatMap Expr.nodes)) := by
  induction es generalizing i page with
  | nil => simp only [writeMoreArguments, Style.drafts, Draft.joinedTail, Draft.put_empty]; rfl
  | cons e rest ih =>
    have hrest := ih fun a ha => h a (List.mem_cons_of_mem e ha)
    simp only [writeMoreArguments, h e List.mem_cons_self (.argument i :: path),
      hrest (i + 1), orFault_bind, List.flatMap_cons, Style.firstFault?_append]
    rfl

theorem writeArguments_eq (path : Expr.Path) (page : Page) :
    writeArguments style es page =
      orFault ((Draft.joined ", " (style.drafts path 0 es)).put style.indentUnit
        style.lineWidth page) (style.firstFault? (es.flatMap Expr.nodes)) := by
  cases es with
  | nil => simp only [writeArguments, Style.drafts, Draft.joined, Draft.put_empty]; rfl
  | cons e rest =>
    have hrest := writeMoreArguments_eq fun a ha => h a (List.mem_cons_of_mem e ha)
    simp only [writeArguments, h e List.mem_cons_self (.argument 0 :: path),
      hrest path 1, orFault_bind, List.flatMap_cons, Style.firstFault?_append]
    rfl

theorem writeMoreSum_eq (path : Expr.Path) (i : Nat) (page : Page) :
    writeMoreSum style es page =
      orFault ((Draft.joinedTail " + " (style.operands path (i + 1) es)).put style.indentUnit
        style.lineWidth page) (style.firstFault? (es.flatMap Expr.nodes)) := by
  induction es generalizing i page with
  | nil => simp only [writeMoreSum, Style.operands, Draft.joinedTail, Draft.put_empty]; rfl
  | cons e rest ih =>
    have hrest := ih fun a ha => h a (List.mem_cons_of_mem e ha)
    simp only [writeMoreSum, Page.writeOperand_eq,
      grouped_eq (h e List.mem_cons_self (.argument (i + 1) :: path)), hrest (i + 1), orFault_bind, List.flatMap_cons, Style.firstFault?_append]
    rfl

theorem writeSum_eq (path : Expr.Path) (page : Page) :
    writeSum style es page =
      orFault ((Draft.joined " + " (style.operands path 0 es)).put style.indentUnit
        style.lineWidth page) (style.firstFault? (es.flatMap Expr.nodes)) := by
  cases es with
  | nil => simp only [writeSum, Style.operands, Draft.joined, Draft.put_empty]; rfl
  | cons e rest =>
    have hrest := writeMoreSum_eq fun a ha => h a (List.mem_cons_of_mem e ha)
    simp only [writeSum, Page.writeOperand_eq,
      grouped_eq (h e List.mem_cons_self (.argument 0 :: path)), hrest path 0, orFault_bind, List.flatMap_cons, Style.firstFault?_append]
    rfl

end Lists

/-- A conditional on one line: its parts are looked at from left to right. -/
theorem putFlat_eq {test ifTrue ifFalse : Page → Except Error Page} {f g h : Page → Page}
    {a b c : Option Error} (hf : ∀ page, test page = orFault (f page) a)
    (hg : ∀ page, ifTrue page = orFault (g page) b)
    (hh : ∀ page, ifFalse page = orFault (h page) c) (page : Page) :
    (do
      let page ← test page
      let page ← ifTrue (page.token " ? ")
      ifFalse (page.token " : ")) =
      orFault (Draft.putFlat f g h page) (a.or (b.or c)) := by
  simp only [hf, hg, hh, orFault_bind]
  rfl

theorem putBroken_eq {test ifTrue ifFalse : Page → Except Error Page} {f g h : Page → Page}
    {a b c : Option Error} (hf : ∀ page, test page = orFault (f page) a)
    (hg : ∀ page, ifTrue page = orFault (g page) b)
    (hh : ∀ page, ifFalse page = orFault (h page) c) (page : Page) :
    (do
      let tested ← test page
      let page ← ifTrue (tested.indent.newLine.token "? ")
      let page ← ifFalse (page.newLine.token ": ")
      return page.restoreDepth tested) =
      orFault (Draft.putBroken f g h page) (a.or (b.or c)) := by
  simp only [hf, hg, hh, orFault_bind_pure, orFault_bind]
  rfl

/-- Writing a tree is checking its nodes in order and then putting its draft on the page. -/
theorem write_eq (style : Style) (e : Expr) (path : Expr.Path) (page : Page) :
    write style e page =
      orFault ((style.draft path e).put style.indentUnit style.lineWidth page)
        (style.firstFault? e.nodes) := by
  induction e using Expr.induction generalizing style path page with
  | parameter p => rfl
  | constant value type captured =>
    simp only [write, Expr.nodes, Style.firstFault?, Style.fault?, Style.checkNode, Style.draft,
      Style.constantWord, Draft.put_text, List.findSome?_cons, List.findSome?_nil]
    cases style.constantText value type captured <;> rfl
  | property receiver name type ih =>
    simp only [write, Page.writeOperand_eq, grouped_eq (ih style (.receiver :: path)),
      orFault_bind_pure, Expr.nodes, Style.firstFault?_cons]
    rfl
  | index receiver arguments type ihr iha =>
    simp only [write, Expr.nodes, Style.firstFault?_cons, ← checkNode_bind, Style.checkNode]
    split
    · rfl
    · simp only [Page.writeOperand_eq, grouped_eq (ihr style (.receiver :: path)),
        writeArguments_eq (fun a ha => iha a ha style) path, orFault_bind_pure, orFault_bind,
        Expr.nodesOfAll_eq, Style.firstFault?_append]
      rfl
  | binary op left right type ihl ihr =>
    have hbinding {α : Type} (f : Binding → Except Error α) :
        (op.binding? >>= f) = f op.binding := by
      rw [op.binding?_eq]
      rfl
    simp only [write, hbinding, Page.writeOperand_eq, Expr.nodes, Style.firstFault?_cons,
      ← checkNode_bind, Style.checkNode, grouped_eq (ihl style (.left :: path)),
      grouped_eq (ihr style (.right :: path)), orFault_bind, Style.firstFault?_append]
    rfl
  | conditional test ifTrue ifFalse type iht iha ihb =>
    simp only [write, Page.writeOperand_eq, Expr.nodes, Style.firstFault?_cons, ← checkNode_bind,
      Style.checkNode]
    split
    · have ht := grouped_eq (iht style (.test :: path)) (style.groups .conditional .left test)
      have ha := grouped_eq (iha style (.ifTrue :: path)) (style.groups .conditional .right ifTrue)
      have hb :=
        grouped_eq (ihb style (.ifFalse :: path)) (style.groups .conditional .right ifFalse)
      cases hw : style.lineWidth with
      | none =>
        rw [hw] at ht ha hb
        simp only [putFlat_eq ht ha hb, Style.firstFault?_append]
        rfl
      | some width =>
        -- The same parts once more on a line of their own, where they are measured.
        have htf := grouped_eq (iht style.flat (.test :: path))
          (style.flat.groups .conditional .left test)
        have haf := grouped_eq (iha style.flat (.ifTrue :: path))
          (style.flat.groups .conditional .right ifTrue)
        have hbf := grouped_eq (ihb style.flat (.ifFalse :: path))
          (style.flat.groups .conditional .right ifFalse)
        simp only [Style.draft_flat, Style.flat_firstFault?] at htf haf hbf
        rw [hw] at ht ha hb
        simp only [putFlat_eq htf haf hbf, putFlat_eq ht ha hb, putBroken_eq ht ha hb,
          orFault_measured, Style.firstFault?_append]
        rfl
    · rfl
  | call receiver method declaring types arguments type ihr iha =>
    simp only [write, Page.writeOperand_eq, grouped_eq (ihr style (.receiver :: path)),
      writeArguments_eq (fun a ha => iha a ha style) path, orFault_bind_pure, orFault_bind,
      Expr.nodes, Expr.nodesOfAll_eq, Style.firstFault?_cons, Style.firstFault?_append, Style.draft,
      Draft.put_append, Draft.put_method]
    rfl
  | staticCall declaring method types arguments type iha =>
    simp only [write, Style.draft, Expr.nodes, Expr.nodesOfAll_eq, Style.firstFault?_cons]
    split
    · rw [writeSum_eq (fun a ha => iha a ha style) path]
      rfl
    · simp only [writeArguments_eq (fun a ha => iha a ha style) path, orFault_bind_pure,
        Draft.put_append, Draft.put_method]
      rfl
  | lambda parameters body type ih =>
    simp only [write, Expr.nodes, Style.firstFault?_cons, ← checkNode_bind, Style.checkNode,
      ih style (.body :: path), Style.draft, Draft.put_append, Draft.put_parameters]
    rfl

end Legible
