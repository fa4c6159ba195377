import Legible.Proofs.FieldsByName
import Mathlib.Data.List.Forall2

/-!
# Layouts of a tree

The fields of an object may be written in any order, and an object that is read as a node or as a
parameter may have further fields that nothing asks for. Neither changes the tree that is read.
Where a value stands decides what is asked of it: the kind of a node gives each of its fields a
role, and so on downwards.
-/

namespace Legible

open Json (Decoded named)

namespace Expr

inductive Role where
  | node (nested : Bool)
  | nodes
  | parameter
  | parameters
  | plain

def Shape.role : Shape → Role
  | .node | .optionalNode => .node true
  | .nodes => .nodes
  | .parameters => .parameters
  | .text | .optionalText | .type | .types | .literal | .operator => .plain

namespace Role

def field (role : Role) (fields : List (String × Json)) (key : String) : Role :=
  match role with
  | .node nested =>
    match (kindIn? nested fields).bind (·.part? key) with
    | some p => p.shape.role
    | none => .plain
  | _ => .plain

/-- The role of an item; a node that is a list has its kind in front. -/
def item (role : Role) (items : List Json) (i : Nat) : Role :=
  match role, items, i with
  | .nodes, _, _ => .node true
  | .parameters, _, _ => .parameter
  | .node nested, tag :: _, i + 1 =>
    match (Kind.decode nested tag).toOption.bind fun kind => kind.parts[i]? with
    | some p => p.shape.role
    | none => .plain
  | _, _, _ => .plain

def Ignores (role : Role) (fields : List (String × Json)) (key : String) : Prop :=
  match role with
  | .node nested =>
    key ≠ "kind" ∧ ∀ kind, kindIn? nested fields = some kind → kind.part? key = none
  | .parameter => Kind.parameter.part? key = none
  | _ => False

end Role

/-- The second value is the first with the fields of any objects in another order and with further
fields where nothing asks for them. -/
inductive Relaid : Role → Json → Json → Prop where
  | same (role : Role) (j : Json) : Relaid role j j
  | array {role : Role} {items items' : List Json} (length : items.length = items'.length)
    (each : ∀ i (h : i < items.length) (h' : i < items'.length),
      Relaid (role.item items i) (items.get ⟨i, h⟩) (items'.get ⟨i, h'⟩)) :
    Relaid role (.array items) (.array items')
  | object {role : Role} {fields fields' : List (String × Json)} (kept added : List (String × Json))
    (keys : fields.map (·.1) = kept.map (·.1))
    (values : ∀ f g, (f, g) ∈ fields.zip kept → Relaid (role.field fields f.1) f.2 g.2)
    (ignored : ∀ f ∈ added, role.Ignores fields f.1)
    (order : fields'.Perm (kept ++ added)) :
    Relaid role (.object fields) (.object fields')

theorem Relaid.of_forall₂ {role : Role} {fields fields' : List (String × Json)}
    (kept added : List (String × Json)) (keys : fields.map (·.1) = kept.map (·.1))
    (values : List.Forall₂ (fun f g => Relaid (role.field fields f.1) f.2 g.2) fields kept)
    (ignored : ∀ f ∈ added, role.Ignores fields f.1) (order : fields'.Perm (kept ++ added)) :
    Relaid role (.object fields) (.object fields') :=
  .object kept added keys (fun _ _ hfg => (List.forall₂_iff_zip.mp values).2 hfg) ignored order

theorem Relaid.of_perm {role : Role} {fields fields' : List (String × Json)}
    (added : List (String × Json)) (ignored : ∀ f ∈ added, role.Ignores fields f.1)
    (order : fields'.Perm (fields ++ added)) : Relaid role (.object fields) (.object fields') :=
  .of_forall₂ fields added rfl (List.forall₂_same.mpr fun _ _ => .same _ _) ignored order

/-- Only the order of fields differs, for nothing is ignored in a plain value. -/
def Reordered (j j' : Json) : Prop := Relaid .plain j j'

theorem Role.item_plain (items : List Json) (i : Nat) : Role.plain.item items i = .plain := by
  cases items <;> cases i <;> rfl

theorem Reordered.relaid {j j' : Json} (h : Reordered j j') (role : Role) : Relaid role j j' := by
  unfold Reordered at h
  generalize hplain : Role.plain = r at h
  induction h generalizing role with
  | same => exact .same role _
  | array length each ih =>
    subst hplain
    exact .array length fun i h h' => ih i h h' _ (Role.item_plain _ i).symm
  | object kept added keys values ignored order ih =>
    subst hplain
    have hadded : added = [] := List.eq_nil_iff_forall_not_mem.mpr ignored
    subst added
    exact .object kept [] keys (fun f g hfg => ih f g hfg _ rfl) nofun order

/-! ### Readings that agree -/

/-- Both values are refused, or both are read as the same. -/
def Agree {α : Type} (read : Json → Decoded α) (j j' : Json) : Prop :=
  (read j').toOption = (read j).toOption

namespace Agree

variable {α β : Type} {read : Json → Decoded α} {j j' : Json}

theorem map (h : Agree read j j') (f : α → β) : Agree (fun j => (read j).map f) j j' := by
  unfold Agree at h ⊢
  rw [Decoded.toOption_map, Decoded.toOption_map, h]

theorem mapM {items items' : List Json} (h : List.Forall₂ (Agree read) items items') :
    (items'.mapM read).toOption = (items.mapM read).toOption := by
  induction h with
  | nil => rfl
  | @cons j j' _ _ hj _ ih =>
    have hread : (read j').toOption = (read j).toOption := hj
    simp only [List.mapM_cons, Decoded.toOption_bind, hread, ih]

end Agree

structure ReadsScalars {α : Type} (read : Json → Decoded α) : Prop where
  array : ∀ items, (read (.array items)).toOption = none
  object : ∀ fields, (read (.object fields)).toOption = none

theorem ReadsScalars.agree {α : Type} {read : Json → Decoded α} (hread : ReadsScalars read)
    {role : Role} {j j' : Json} (h : Relaid role j j') : Agree read j j' := by
  cases h with
  | same => rfl
  | array => exact (hread.array _).trans (hread.array _).symm
  | object => exact (hread.object _).trans (hread.object _).symm

/-! ### Fields in another order -/

/-- Both lists are empty, or each has one element and these are related, or both have several. -/
inductive Matched {α : Type} (R : α → α → Prop) : List α → List α → Prop where
  | none : Matched R [] []
  | one {a b : α} (h : R a b) : Matched R [a] [b]
  | several {a₁ a₂ b₁ b₂ : α} {as bs : List α} : Matched R (a₁ :: a₂ :: as) (b₁ :: b₂ :: bs)

theorem Matched.of_perm {α : Type} {R : α → α → Prop} {as bs cs : List α}
    (h : List.Forall₂ R as bs) (order : cs.Perm bs) : Matched R as cs := by
  cases h with
  | nil =>
    cases order.eq_nil
    exact .none
  | cons hR h =>
    cases h with
    | nil =>
      cases order.eq_singleton
      exact .one hR
    | cons =>
      match cs, order.length_eq with
      | _ :: _ :: _, _ => exact .several

theorem Matched.mono {α : Type} {R S : α → α → Prop} {as bs : List α} (h : Matched R as bs)
    (himp : ∀ a b, R a b → S a b) : Matched S as bs := by
  cases h with
  | none => exact .none
  | one h => exact .one (himp _ _ h)
  | several => exact .several

theorem forall₂_of_keys {R : String → Json → Json → Prop} {fields kept : List (String × Json)}
    (keys : fields.map (·.1) = kept.map (·.1))
    (values : ∀ f g, (f, g) ∈ fields.zip kept → R f.1 f.2 g.2) :
    List.Forall₂ (fun f g => f.1 = g.1 ∧ R f.1 f.2 g.2) fields kept := by
  induction fields generalizing kept with
  | nil =>
    cases List.map_eq_nil_iff.mp keys.symm
    exact .nil
  | cons f fields ih =>
    cases kept with
    | nil => cases keys
    | cons g kept =>
      obtain ⟨hkey, hkeys⟩ := List.cons.inj keys
      refine .cons ⟨hkey, values f g (List.mem_cons_self ..)⟩ (ih hkeys ?_)
      exact fun f' g' h => values f' g' (List.mem_cons_of_mem _ h)

theorem matched_named {R : String → Json → Json → Prop}
    {fields kept added fields' : List (String × Json)}
    (h : List.Forall₂ (fun f g => f.1 = g.1 ∧ R f.1 f.2 g.2) fields kept)
    (order : fields'.Perm (kept ++ added)) {name : String} (hname : ∀ f ∈ added, f.1 ≠ name) :
    Matched (R name) (named name fields) (named name fields') := by
  have hkept : List.Forall₂ (R name) (named name fields) (named name kept) := by
    clear order
    induction h with
    | nil => exact .nil
    | @cons f g _ _ hfg _ ih =>
      obtain ⟨key, value⟩ := f
      obtain ⟨key', value'⟩ := g
      obtain ⟨rfl, hR⟩ := hfg
      by_cases hkey : key = name
      · subst hkey
        rw [Json.named_cons_self, Json.named_cons_self]
        exact .cons hR ih
      · rw [Json.named_cons_of_ne hkey, Json.named_cons_of_ne hkey]
        exact ih
  have hadded : added.filter (fun f => f.1 == name) = [] := by
    rw [List.filter_eq_nil_iff]
    exact fun f hf he => hname f hf (beq_iff_eq.mp he)
  refine .of_perm hkept (List.Perm.map _ ?_)
  have hfilter := order.filter fun f => f.1 == name
  rwa [List.filter_append, hadded, List.append_nil] at hfilter

/-- Nothing is added to a plain object. -/
theorem Relaid.matched_fields {fields fields' : List (String × Json)}
    (h : Relaid .plain (.object fields) (.object fields')) :
    Matched (fun f g => f.1 = g.1 ∧ Relaid .plain f.2 g.2) fields fields' := by
  cases h with
  | same => exact .of_perm (List.forall₂_same.mpr fun f _ => ⟨rfl, .same _ _⟩) (.refl _)
  | object kept added keys values ignored order =>
    have hadded : added = [] := List.eq_nil_iff_forall_not_mem.mpr ignored
    rw [hadded, List.append_nil] at order
    exact .of_perm (forall₂_of_keys (R := fun _ => Relaid .plain) keys values) order

/-! ### Parts without nodes -/

theorem Relaid.agree_variant {α : Type} {read : String × Option Json → Decoded α} {j j' : Json}
    (h : Relaid .plain j j')
    (hread : ∀ name content content', Relaid .plain content content' →
      Agree (fun c => read (name, some c)) content content') :
    Agree (fun j => j.asVariant >>= read) j j' := by
  cases h with
  | same => rfl
  | array => rfl
  | object kept added keys values ignored order =>
    cases (Relaid.object kept added keys values ignored order).matched_fields with
    | none => rfl
    | @one f g hfg =>
      obtain ⟨name, content⟩ := f
      obtain ⟨name', content'⟩ := g
      obtain ⟨rfl, hcontent⟩ := hfg
      exact hread name content content' hcontent
    | several => rfl

theorem Relaid.agree_unit {j j' : Json} (h : Relaid .plain j j') (lenient : Bool) :
    Agree (fun c => Json.asUnit lenient (some c)) j j' := by
  cases h with
  | same => rfl
  | array => rfl
  | object kept added keys values ignored order =>
    cases (Relaid.object kept added keys values ignored order).matched_fields with
    | none => rfl
    | one => rfl
    | several => rfl

theorem Relaid.agree_literal {j j' : Json} (h : Relaid .plain j j') :
    Agree (Literal.decode true) j j' := by
  refine h.agree_variant fun name content content' hcontent => ?_
  have hscalar {α : Type} {read : Json → Decoded α} (hread : ReadsScalars read)
      (make : α → Literal) : Agree (fun c => (read c).map make) content content' :=
    (hread.agree hcontent).map make
  dsimp only
  split_ifs
  · exact (hcontent.agree_unit true).map _
  iterate 6 exact hscalar ⟨fun _ => rfl, fun _ => rfl⟩ _
  · rfl

theorem Relaid.agree_operator {j j' : Json} (h : Relaid .plain j j') :
    Agree BinaryOp.decode j j' := by
  refine h.agree_variant fun name content content' hcontent => ?_
  dsimp only
  split
  · rfl
  · exact (hcontent.agree_unit true).map _

theorem readsScalars_type : ReadsScalars Ty.decode := ⟨fun _ => rfl, fun _ => rfl⟩

theorem Relaid.agree_types {j j' : Json} (h : Relaid .plain j j') :
    Agree (decodeFlat .types) j j' := by
  cases h with
  | same => rfl
  | object => rfl
  | array length each =>
    have htypes := Agree.mapM (List.forall₂_iff_get.mpr
      ⟨length, fun i h h' => readsScalars_type.agree (each i h h')⟩)
    change ((Ty.decodeList _).map Part.types).toOption = ((Ty.decodeList _).map Part.types).toOption
    rw [Decoded.toOption_map, Decoded.toOption_map, Ty.decodeList_eq, Ty.decodeList_eq, htypes]

theorem Relaid.agree_plain {p : PartFormat} (hp : p.shape.role = .plain) {j j' : Json}
    (h : Relaid .plain j j') : Agree p.read j j' := by
  have hscalar {α : Type} {read : Json → Decoded α} (hread : ReadsScalars read)
      (make : α → Part) : Agree (fun j => (read j).map make) j j' :=
    (hread.agree h).map make
  obtain ⟨name, shape, absent⟩ := p
  cases shape with
  | text => exact hscalar ⟨fun _ => rfl, fun _ => rfl⟩ _
  | optionalText => exact hscalar ⟨fun _ => rfl, fun _ => rfl⟩ _
  | type => exact hscalar ⟨fun _ => rfl, fun _ => rfl⟩ _
  | types => exact h.agree_types
  | literal => exact h.agree_literal.map _
  | operator => exact h.agree_operator.map _
  | node | optionalNode | nodes | parameters => cases hp

theorem PartFormat.settle_eq {p : PartFormat} {values values' : List Json}
    (h : Matched (Agree p.read) values values') : p.settle none values' = p.settle none values := by
  cases h with
  | none => rfl
  | one hread => exact hread
  | several => rfl

/-! ### Parameters -/

def listedParameter? : List Json → Option Parameter
  | [name, type] =>
    name.asString.toOption.bind fun s => (Ty.decode type).toOption.map (Parameter.mk s)
  | _ => none

theorem toOption_decodeParameter_array (items : List Json) :
    (decodeFlat.decodeParameter (.array items)).toOption = listedParameter? items := by
  match items with
  | [] => rfl
  | [name] =>
    rw [decodeFlat.decodeParameter]
    cases name.asString <;> rfl
  | [name, type] =>
    rw [decodeFlat.decodeParameter, listedParameter?]
    dsimp only
    cases name.asString with
    | error => rfl
    | ok s => cases Ty.decode type <;> rfl
  | name :: type :: _ :: _ =>
    rw [decodeFlat.decodeParameter]
    dsimp only
    cases name.asString with
    | error => rfl
    | ok s => cases Ty.decode type <;> rfl

theorem listedParameter?_eq {role : Role} {items items' : List Json}
    (h : List.Forall₂ (Relaid role) items items') :
    listedParameter? items' = listedParameter? items := by
  match h with
  | .nil => rfl
  | .cons _ .nil => rfl
  | .cons hname (.cons htype .nil) =>
    have hstring : Agree Json.asString _ _ :=
      ReadsScalars.agree ⟨fun _ => rfl, fun _ => rfl⟩ hname
    rw [listedParameter?, listedParameter?, hstring, readsScalars_type.agree htype]
  | .cons _ (.cons _ (.cons _ _)) => rfl

theorem Relaid.agree_parameter {j j' : Json} (h : Relaid .parameter j j') :
    Agree decodeFlat.decodeParameter j j' := by
  cases h with
  | same => rfl
  | @array _ items items' length each =>
    have heach : List.Forall₂ (Relaid .plain) items items' :=
      List.forall₂_iff_get.mpr ⟨length, each⟩
    unfold Agree
    rw [toOption_decodeParameter_array, toOption_decodeParameter_array, listedParameter?_eq heach]
  | object kept added keys values ignored order =>
    unfold Agree
    rw [toOption_decodeParameter_object, toOption_decodeParameter_object]
    congr 1
    apply mapM_congr_of_mem
    intro p hp
    have hfields := forall₂_of_keys (R := fun _ => Relaid .plain) keys values
    refine PartFormat.settle_eq
      ((matched_named (R := fun _ => Relaid .plain) hfields order ?_).mono ?_)
    · intro f hf hname
      have hnone : Kind.parameter.part? f.1 = none := ignored f hf
      rw [hname, Kind.part?_name hp] at hnone
      cases hnone
    · intro k k' hk
      rcases List.mem_pair.mp hp with rfl | rfl
      · exact hk.agree_plain rfl
      · exact hk.agree_plain rfl

theorem Relaid.agree_parameters {j j' : Json} (h : Relaid .parameters j j') :
    Agree (decodeFlat .parameters) j j' := by
  cases h with
  | same => rfl
  | object => rfl
  | array length each =>
    have hparameters := Agree.mapM (List.forall₂_iff_get.mpr
      ⟨length, fun i h h' => (each i h h').agree_parameter⟩)
    change ((decodeFlat.decodeParameters _).map Part.parameters).toOption =
      ((decodeFlat.decodeParameters _).map Part.parameters).toOption
    rw [Decoded.toOption_map, Decoded.toOption_map, decodeParameters_eq, decodeParameters_eq,
      hparameters]

/-! ### Nodes -/

/-- What holds of the values of a role, as far as nodes are read from them. -/
def Role.Agrees : Role → Json → Json → Prop
  | .node nested => Agree (decodeNode nested)
  | .nodes => Agree decodeNodes
  | .parameter | .parameters | .plain => fun _ _ => True

theorem Relaid.agree_read {p : PartFormat} {j j' : Json} (h : Relaid p.shape.role j j')
    (hnodes : p.shape.role.Agrees j j') : Agree p.read j j' := by
  obtain ⟨name, shape, absent⟩ := p
  cases shape with
  | node => exact Agree.map hnodes Part.node
  | optionalNode =>
    cases h with
    | same => rfl
    | array => exact Agree.map hnodes fun e => Part.optionalNode (some e)
    | object => exact Agree.map hnodes fun e => Part.optionalNode (some e)
  | nodes => exact Agree.map hnodes Part.nodes
  | parameters => exact h.agree_parameters
  | text | optionalText | type | types | literal | operator => exact h.agree_plain rfl

theorem toOption_listParts_cons (kind : Kind) (length index : Nat) (p : PartFormat)
    (formats : List PartFormat) (j : Json) (rest : List Json) :
    (listParts kind length index (p :: formats) (j :: rest)).toOption =
      (p.read j).toOption.bind fun v =>
        (listParts kind length (index + 1) formats rest).toOption.map (v :: ·) := by
  have hstep : listParts kind length index (p :: formats) (j :: rest) =
      p.read j >>= fun v => (listParts kind length (index + 1) formats rest).map (v :: ·) := by
    rw [listParts, PartFormat.read]
    cases decodePart p.shape j (fun _ => decodeNode true j) (fun _ => decodeNodes j) <;> rfl
  rw [hstep, Decoded.toOption_bind]
  simp only [Decoded.toOption_map]

theorem toOption_listParts_eq (kind : Kind) (length index : Nat) {formats : List PartFormat}
    {items items' : List Json} (hlength : items.length = items'.length)
    (each : ∀ i p, formats[i]? = some p → ∀ (h : i < items.length) (h' : i < items'.length),
      Agree p.read (items.get ⟨i, h⟩) (items'.get ⟨i, h'⟩)) :
    (listParts kind length index formats items').toOption =
      (listParts kind length index formats items).toOption := by
  induction items generalizing index formats items' with
  | nil =>
    cases List.length_eq_zero_iff.mp hlength.symm
    rfl
  | cons j items ih =>
    cases items' with
    | nil => cases hlength
    | cons j' items' =>
      cases formats with
      | nil => rfl
      | cons p formats =>
        have hhead : Agree p.read j j' := each 0 p rfl (Nat.succ_pos _) (Nat.succ_pos _)
        have htail := ih (index + 1) (Nat.succ.inj hlength) fun i q hq h h' =>
          each (i + 1) q hq (Nat.succ_lt_succ h) (Nat.succ_lt_succ h')
        rw [toOption_listParts_cons, toOption_listParts_cons, hhead, htail]

theorem kindIn?_eq {nested : Bool} {fields fields' : List (String × Json)}
    (h : Matched (Agree (Kind.decode nested)) (named "kind" fields) (named "kind" fields')) :
    kindIn? nested fields' = kindIn? nested fields := by
  unfold kindIn?
  generalize named "kind" fields = values at h ⊢
  generalize named "kind" fields' = values' at h ⊢
  cases h with
  | none => rfl
  | one htag => exact htag
  | several => rfl

theorem readsScalars_kind (nested : Bool) : ReadsScalars (Kind.decode nested) :=
  ⟨fun _ => rfl, fun _ => rfl⟩

theorem Role.field_node {nested : Bool} {fields : List (String × Json)} {kind : Kind}
    (hkind : kindIn? nested fields = some kind) {p : PartFormat} (hp : p ∈ kind.parts) :
    (Role.node nested).field fields p.name = p.shape.role := by
  have hpart : (kindIn? nested fields).bind (·.part? p.name) = some p := by
    rw [hkind]
    exact Kind.part?_name hp
  rw [field, hpart]

theorem Role.item_node {nested : Bool} {tag : Json} {rest : List Json} {kind : Kind}
    (hkind : Kind.decode nested tag = .ok kind) {i : Nat} {p : PartFormat}
    (hp : kind.parts[i]? = some p) :
    (Role.node nested).item (tag :: rest) (i + 1) = p.shape.role := by
  have hpart : ((Kind.decode nested tag).toOption.bind fun kind => kind.parts[i]?) = some p := by
    rw [hkind]
    exact hp
  rw [item, hpart]

def Role.Related (role : Role) (j j' : Json) : Prop := Relaid role j j' ∧ role.Agrees j j'

theorem agree_node_object {nested : Bool} {fields kept added fields' : List (String × Json)}
    (hfields : List.Forall₂ (fun f g =>
      f.1 = g.1 ∧ ((Role.node nested).field fields f.1).Related f.2 g.2) fields kept)
    (ignored : ∀ f ∈ added, (Role.node nested).Ignores fields f.1)
    (order : fields'.Perm (kept ++ added)) :
    Agree (decodeNode nested) (.object fields) (.object fields') := by
  have hmatched {name : String} (hname : ∀ f ∈ added, f.1 ≠ name) :=
    matched_named (R := fun key => ((Role.node nested).field fields key).Related) hfields order hname
  have hkind : kindIn? nested fields' = kindIn? nested fields := by
    refine kindIn?_eq ((hmatched fun f hf => (ignored f hf).1).mono ?_)
    rintro tag tag' ⟨htag, -⟩
    exact (readsScalars_kind nested).agree htag
  unfold Agree
  rw [toOption_decodeNode_object, toOption_decodeNode_object, hkind]
  cases hk : kindIn? nested fields with
  | none => rfl
  | some kind =>
    have hparts : kind.parts.mapM (partIn? fields') = kind.parts.mapM (partIn? fields) := by
      apply mapM_congr_of_mem
      intro p hp
      refine PartFormat.settle_eq ((hmatched ?_).mono ?_)
      · intro f hf hname
        have hnone := (ignored f hf).2 kind hk
        rw [hname, Kind.part?_name hp] at hnone
        cases hnone
      · rw [Role.field_node hk hp]
        rintro j j' ⟨hj, hnodes⟩
        exact hj.agree_read hnodes
    rw [Option.bind_some, Option.bind_some, hparts]

theorem toOption_decodeNode_array (nested : Bool) (tag : Json) (rest : List Json) :
    (decodeNode nested (.array (tag :: rest))).toOption =
      (Kind.decode nested tag).toOption.bind fun kind =>
        (listParts kind rest.length 0 kind.parts rest).toOption.bind (ofParts kind) := by
  rw [decodeNode, Decoded.toOption_bind]
  congr 1
  funext kind
  rw [Decoded.toOption_bind]
  congr 1
  funext parts
  exact toOption_assemble kind parts

theorem agree_node_array {nested : Bool} {items items' : List Json}
    (length : items.length = items'.length)
    (each : ∀ i (h : i < items.length) (h' : i < items'.length),
      ((Role.node nested).item items i).Related (items.get ⟨i, h⟩) (items'.get ⟨i, h'⟩)) :
    Agree (decodeNode nested) (.array items) (.array items') := by
  match items, items' with
  | [], [] => rfl
  | tag :: rest, tag' :: rest' =>
    have htag : Agree (Kind.decode nested) tag tag' :=
      (readsScalars_kind nested).agree (each 0 (Nat.succ_pos _) (Nat.succ_pos _)).1
    have hrest := Nat.succ.inj length
    unfold Agree at htag ⊢
    rw [toOption_decodeNode_array, toOption_decodeNode_array, htag]
    cases hk : Kind.decode nested tag with
    | error => rfl
    | ok kind =>
      have hparts := toOption_listParts_eq kind rest.length 0 hrest fun i p hp h h' => by
        have hi := each (i + 1) (Nat.succ_lt_succ h) (Nat.succ_lt_succ h')
        rw [Role.item_node hk hp] at hi
        exact hi.1.agree_read hi.2
      rw [← hrest]
      exact congrArg (Option.bind · (ofParts kind)) hparts

theorem Relaid.agrees {role : Role} {j j' : Json} (h : Relaid role j j') : role.Agrees j j' := by
  induction h with
  | same role j =>
    cases role with
    | node | nodes => rfl
    | parameter | parameters | plain => trivial
  | @array role items items' length each ih =>
    cases role with
    | node nested => exact agree_node_array length fun i h h' => ⟨each i h h', ih i h h'⟩
    | nodes =>
      have hitems : List.Forall₂ (Agree (decodeNode true)) items items' :=
        List.forall₂_iff_get.mpr ⟨length, ih⟩
      change (decodeItems items').toOption = (decodeItems items).toOption
      rw [decodeItems_eq, decodeItems_eq, Agree.mapM hitems]
    | parameter | parameters | plain => trivial
  | @object role fields fields' kept added keys values ignored order ih =>
    cases role with
    | node nested =>
      have hfields := forall₂_of_keys (R := fun key => ((Role.node nested).field fields key).Related)
        keys fun f g hfg => ⟨values f g hfg, ih f g hfg⟩
      exact agree_node_object hfields ignored order
    | nodes => rfl
    | parameter | parameters | plain => trivial

/-- Neither the order of fields nor fields that nothing asks for have a say in what tree is read. -/
theorem decode_independent_of_layout (j j' : Json) :
    (Relaid (.node false) j j' → ∀ e, decode j = .ok e ↔ decode j' = .ok e) ∧
      (Reordered j j' → ∀ fault, decode j = .error fault → ∃ fault', decode j' = .error fault') := by
  have hoption (k : Json) (e : Expr) : decode k = .ok e ↔ (decode k).toOption = some e := by
    cases decode k <;> simp [Except.toOption]
  have hsame (h : Relaid (.node false) j j') (e : Expr) : decode j = .ok e ↔ decode j' = .ok e := by
    have hagree : (decode j').toOption = (decode j).toOption := h.agrees
    rw [hoption, hoption, hagree]
  refine ⟨hsame, ?_⟩
  intro h fault hfault
  cases hj' : decode j' with
  | error fault' => exact ⟨fault', rfl⟩
  | ok e =>
    have hj := (hsame (h.relaid (.node false)) e).mpr hj'
    cases hfault.symm.trans hj

theorem decode_independent_of_layout_kind_last :
    let name : String × Json := ("name", .string "x")
    let type : String × Json := ("type", .string "int")
    let function : String × Json := ("type", .string "Func<int, int>")
    let j : Json := .object
      [("kind", .string "lambda"), ("parameters", .array [.object [name, type]]),
       ("body", .object [("kind", .string "parameter"), name, type]), function]
    let j' : Json := .object
      [("receiver", .null), function,
       ("body", .object [("value", .int 1), type, name, ("kind", .string "parameter")]),
       ("parameters", .array [.object [("kind", .string "lambda"), type, name]]),
       ("kind", .string "lambda")]
    let faulty : Json := .object [("kind", .string "parameter"), ("name", .null), ("type", .null)]
    let faulty' : Json := .object [("type", .null), ("name", .null), ("kind", .string "parameter")]
    Relaid (.node false) j j' ∧
      decode j' = .ok (.lambda [⟨"x", .int⟩] (.parameter ⟨"x", .int⟩) (.function [.int] .int)) ∧
      Reordered faulty faulty' ∧ ∃ fault, decode faulty' = .error fault := by
  intro name type function j j' faulty faulty'
  have hparameter : Relaid .parameter (.object [name, type])
      (.object [("kind", .string "lambda"), type, name]) := by
    apply Relaid.of_perm [("kind", .string "lambda")]
    · rw [List.forall_mem_singleton]
      rfl
    · exact List.reverse_perm [name, type, ("kind", .string "lambda")]
  have hparameters : Relaid .parameters (.array [.object [name, type]])
      (.array [.object [("kind", .string "lambda"), type, name]]) := by
    refine .array rfl fun i h h' => ?_
    obtain rfl : i = 0 := Nat.lt_one_iff.mp h
    exact hparameter
  have hbody : Relaid (.node true) (.object [("kind", .string "parameter"), name, type])
      (.object [("value", .int 1), type, name, ("kind", .string "parameter")]) := by
    apply Relaid.of_perm [("value", .int 1)]
    · rw [List.forall_mem_singleton]
      refine ⟨by decide, fun kind hkind => ?_⟩
      cases hkind
      rfl
    · exact List.reverse_perm [("kind", .string "parameter"), name, type, ("value", .int 1)]
  have hj : Relaid (.node false) j j' := by
    apply Relaid.of_forall₂
      [("kind", .string "lambda"),
       ("parameters", .array [.object [("kind", .string "lambda"), type, name]]),
       ("body", .object [("value", .int 1), type, name, ("kind", .string "parameter")]), function]
      [("receiver", .null)]
    · rfl
    · exact .cons (.same _ _) (.cons hparameters (.cons hbody (.cons (.same _ _) .nil)))
    · rw [List.forall_mem_singleton]
      refine ⟨by decide, fun kind hkind => ?_⟩
      cases hkind
      rfl
    · exact List.reverse_perm [_, _, _, _, _]
  have hfaulty : Reordered faulty faulty' := .of_perm [] nofun (List.reverse_perm [_, _, _])
  exact ⟨hj, ((decode_independent_of_layout j j').1 hj _).mp rfl, hfaulty,
    (decode_independent_of_layout faulty faulty').2 hfaulty _ rfl⟩

end Expr

end Legible
