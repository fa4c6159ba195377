import Legible.Proofs.SerializedParts
import Legible.Proofs.TypeRoundTrip

/-!
# Reading back a tree

Types are written as their text, so a tree survives being written exactly as far as its types do.
Every type of a tree that was read comes out of the type parser and is read back from its own text:
from the first reading on, writing and reading change nothing. Floats stand apart, for nothing is
known here about the text of one.
-/

namespace Legible

namespace Json

@[elab_as_elim]
theorem induction {motive : Json → Prop} (null : motive .null) (bool : ∀ b, motive (.bool b))
    (int : ∀ n, motive (.int n)) (float : ∀ x, motive (.float x)) (string : ∀ s, motive (.string s))
    (array : ∀ items, (∀ j ∈ items, motive j) → motive (.array items))
    (object : ∀ fields, (∀ field ∈ fields, motive field.2) → motive (.object fields)) (j : Json) :
    motive j := by
  refine @Json.rec motive (fun items => ∀ j ∈ items, motive j)
    (fun fields => ∀ field ∈ fields, motive field.2) (fun field => motive field.2)
    null bool int float string array object ?_ ?_ ?_ ?_ ?_ j
  · exact nofun
  · exact fun j items hj hitems => List.forall_mem_cons.mpr ⟨hj, hitems⟩
  · exact nofun
  · exact fun field fields hf hfields => List.forall_mem_cons.mpr ⟨hf, hfields⟩
  · exact fun name j hj => hj

end Json

open Json (Decoded)

namespace Ty

def ReadsBack (t : Ty) : Prop := parse t.text = .ok t

theorem readsBack_of_decode {j : Json} {t : Ty} (h : decode j = .ok t) : t.ReadsBack := by
  obtain ⟨s, -, hs⟩ := Decoded.exists_of_bind h
  cases hp : parse s with
  | error e => rw [hp] at hs; cases hs
  | ok u =>
    rw [hp] at hs
    cases hs
    exact (wellFormed_of_parse hp).parse_text

theorem readsBack_of_decodeList {items : List Json} {ts : List Ty} (h : decodeList items = .ok ts) :
    ∀ t ∈ ts, t.ReadsBack := by
  rw [decodeList_eq] at h
  exact Decoded.forall_of_mapM (fun _ _ _ => readsBack_of_decode) h

end Ty

namespace Expr

def ownTypes : Expr → List Ty
  | .parameter p => [p.type]
  | .constant _ type _ => [type]
  | .property _ _ type => [type]
  | .index _ _ type => [type]
  | .binary _ _ _ type => [type]
  | .conditional _ _ _ type => [type]
  | .call _ _ declaring types _ type => declaring :: type :: types
  | .staticCall declaring _ types _ type => declaring :: type :: types
  | .lambda parameters _ type => type :: parameters.map (·.type)

/-- Every type in the tree is read back from its text. -/
def TypesReadBack (e : Expr) : Prop := ∀ n ∈ e.nodes, ∀ t ∈ n.ownTypes, t.ReadsBack

def WithoutDoubles (e : Expr) : Prop :=
  ∀ n ∈ e.nodes, ∀ x type captured, n ≠ .constant (.double x) type captured

theorem typesReadBack_iff {e : Expr} :
    e.TypesReadBack ↔ (∀ t ∈ e.ownTypes, t.ReadsBack) ∧ ∀ part ∈ e.parts, part.TypesReadBack := by
  constructor
  · intro h
    exact ⟨h e e.mem_nodes_self, fun part hp n hn => h n (nodes_subset_of_mem_parts hp n hn)⟩
  · rintro ⟨hown, hparts⟩ n hn
    rw [nodes_eq] at hn
    rcases List.mem_cons.mp hn with rfl | hn
    · exact hown
    · obtain ⟨part, hp, hn⟩ := List.mem_flatMap.mp hn
      exact hparts part hp n hn

/-! ### From a tree to its serialized form and back -/

namespace PartFormat

variable {name : String} {absent : Option Part}

/-- A part that is always written is given back by what reads its value. -/
theorem Restores.of_read {α : Type} {f : PartFormat} {j : Json} (make : α → Part) {a : α}
    {read : Decoded α} (hj : (make a).written? = some j)
    (hpart : decodePart f.shape j (fun _ => decodeNode true j) (fun _ => decodeNodes j) =
      read.map make) (hread : read = .ok a) : f.Restores (make a) where
  written := by
    intro k hk
    cases hj.symm.trans hk
    rw [hpart, hread]
    rfl
  left_out := fun hnone => nomatch hj.symm.trans hnone

theorem restores_text (s : String) : Restores ⟨name, .text, absent⟩ (.text s) :=
  .of_read .text rfl rfl rfl

theorem restores_optionalText (s : Option String) :
    Restores ⟨name, .optionalText, some (.optionalText none)⟩ (.optionalText s) := by
  cases s with
  | none => exact ⟨nofun, fun _ => rfl⟩
  | some s => exact .of_read (fun s => .optionalText (some s)) rfl rfl rfl

theorem restores_type {t : Ty} (h : t.ReadsBack) : Restores ⟨name, .type, absent⟩ (.type t) :=
  .of_read .type rfl rfl (Ty.decode_encode h)

theorem restores_types {ts : List Ty} (h : ∀ t ∈ ts, t.ReadsBack) :
    Restores ⟨name, .types, some (.types [])⟩ (.types ts) := by
  cases ts with
  | nil => exact ⟨nofun, fun _ => rfl⟩
  | cons t ts =>
    refine .of_read .types rfl rfl ?_
    rw [Ty.decodeList_eq]
    exact Decoded.mapM_map fun u hu => Ty.decode_encode (h u hu)

theorem restores_literal {value : Literal} (h : ∀ x, value ≠ .double x) :
    Restores ⟨name, .literal, absent⟩ (.literal value) :=
  .of_read .literal rfl rfl (Literal.decode_encode h true)

theorem restores_operator (op : BinaryOp) : Restores ⟨name, .operator, absent⟩ (.operator op) :=
  .of_read .operator rfl rfl op.decode_tag

theorem restores_node {e : Expr} (h : decodeNode true e.encode = .ok e) :
    Restores ⟨name, .node, absent⟩ (.node e) :=
  .of_read .node rfl rfl h

theorem restores_some_node {e : Expr} (h : decodeNode true e.encode = .ok e) :
    Restores ⟨name, .optionalNode, absent⟩ (.optionalNode (some e)) := by
  refine .of_read (fun e => .optionalNode (some e)) rfl ?_ h
  -- a node is written as an object, never as null
  rw [encode_eq]
  rfl

theorem restores_no_node :
    Restores ⟨name, .optionalNode, some (.optionalNode none)⟩ (.optionalNode none) :=
  ⟨nofun, fun _ => rfl⟩

theorem restores_nodes {es : List Expr} (h : ∀ e ∈ es, decodeNode true e.encode = .ok e) :
    Restores ⟨name, .nodes, absent⟩ (.nodes es) := by
  refine .of_read .nodes rfl rfl ?_
  rw [decodeNodes, decodeItems_eq, encodeList_eq]
  exact Decoded.mapM_map h

theorem restores_parameters {ps : List Parameter} (h : ∀ p ∈ ps, p.type.ReadsBack) :
    Restores ⟨name, .parameters, absent⟩ (.parameters ps) := by
  refine .of_read .parameters rfl rfl ?_
  rw [decodeParameters_eq]
  exact Decoded.mapM_map fun p hp => decodeParameter_encode (h p hp)

end PartFormat

open PartFormat in
/-- The format of a node restores all its parts once its types and the nodes in it are read back. -/
theorem restores_record {e : Expr} (htypes : ∀ t ∈ e.ownTypes, t.ReadsBack)
    (hdouble : ∀ x type captured, e ≠ .constant (.double x) type captured)
    (hparts : ∀ part ∈ e.parts, decodeNode true part.encode = .ok part) :
    List.Forall₂ PartFormat.Restores e.kind.parts e.record := by
  cases e with
  | parameter p =>
    exact .cons (restores_text _) (.cons (restores_type (htypes _ (by simp [ownTypes]))) .nil)
  | constant value type captured =>
    have hvalue : ∀ x, value ≠ .double x := by
      rintro x rfl
      exact hdouble x type captured rfl
    exact .cons (restores_literal hvalue) (.cons (restores_type (htypes _ (by simp [ownTypes])))
      (.cons (restores_optionalText captured) .nil))
  | property receiver name type =>
    exact .cons (restores_node (hparts _ (by simp [parts]))) (.cons (restores_text _)
      (.cons (restores_type (htypes _ (by simp [ownTypes]))) .nil))
  | index receiver arguments type =>
    obtain ⟨hreceiver, harguments⟩ := List.forall_mem_cons.mp hparts
    exact .cons (restores_node hreceiver) (.cons (restores_nodes harguments)
      (.cons (restores_type (htypes _ (by simp [ownTypes]))) .nil))
  | binary op left right type =>
    exact .cons (restores_operator op) (.cons (restores_node (hparts _ (by simp [parts])))
      (.cons (restores_node (hparts _ (by simp [parts])))
        (.cons (restores_type (htypes _ (by simp [ownTypes]))) .nil)))
  | conditional test ifTrue ifFalse type =>
    exact .cons (restores_node (hparts _ (by simp [parts])))
      (.cons (restores_node (hparts _ (by simp [parts])))
        (.cons (restores_node (hparts _ (by simp [parts])))
          (.cons (restores_type (htypes _ (by simp [ownTypes]))) .nil)))
  | call receiver method declaring types arguments type =>
    obtain ⟨hreceiver, harguments⟩ := List.forall_mem_cons.mp hparts
    obtain ⟨hdeclaring, hrest⟩ := List.forall_mem_cons.mp htypes
    obtain ⟨htype, htypes⟩ := List.forall_mem_cons.mp hrest
    exact .cons (restores_some_node hreceiver) (.cons (restores_text _)
      (.cons (restores_type hdeclaring) (.cons (restores_types htypes)
        (.cons (restores_nodes harguments) (.cons (restores_type htype) .nil)))))
  | staticCall declaring method types arguments type =>
    obtain ⟨hdeclaring, hrest⟩ := List.forall_mem_cons.mp htypes
    obtain ⟨htype, htypes⟩ := List.forall_mem_cons.mp hrest
    exact .cons restores_no_node (.cons (restores_text _)
      (.cons (restores_type hdeclaring) (.cons (restores_types htypes)
        (.cons (restores_nodes hparts) (.cons (restores_type htype) .nil)))))
  | lambda parameters body type =>
    obtain ⟨htype, hparameters⟩ := List.forall_mem_cons.mp htypes
    exact .cons (restores_parameters (List.forall_mem_map.mp hparameters))
      (.cons (restores_node (hparts _ (by simp [parts]))) (.cons (restores_type htype) .nil))

theorem decodeNode_encode {e : Expr} (hdouble : e.WithoutDoubles) (htypes : e.TypesReadBack)
    (nested : Bool) : decodeNode nested e.encode = .ok e := by
  induction e using Expr.parts_induction generalizing nested with
  | step e ih =>
    obtain ⟨hown, hbelow⟩ := typesReadBack_iff.mp htypes
    have hrecord : List.Forall₂ PartFormat.Restores e.kind.parts e.record := by
      refine restores_record hown (hdouble e e.mem_nodes_self) ?_
      intro part hp
      have hpart : part.WithoutDoubles := fun n hn => hdouble n (nodes_subset_of_mem_parts hp n hn)
      exact ih part hp hpart (hbelow part hp) true
    exact decodeNode_encode_of_restores hrecord nested

/-! ### From a serialized form to its tree -/

def Part.ReadsBack : Part → Prop
  | .type t => t.ReadsBack
  | .types ts => ∀ t ∈ ts, t.ReadsBack
  | .node e => e.TypesReadBack
  | .optionalNode e => ∀ n ∈ e, n.TypesReadBack
  | .nodes es => ∀ e ∈ es, e.TypesReadBack
  | .parameters ps => ∀ p ∈ ps, p.type.ReadsBack
  | .text _ | .optionalText _ | .literal _ | .operator _ => True

theorem typesReadBack_of_record {e : Expr} (h : ∀ p ∈ e.record, p.ReadsBack) : e.TypesReadBack := by
  rw [typesReadBack_iff]
  cases e <;> simp_all [record, Part.ReadsBack, ownTypes, parts]

theorem typesReadBack_of_assemble {kind : Kind} {parts : List Part} {e : Expr}
    (h : assemble kind parts = .ok e) (hparts : ∀ p ∈ parts, p.ReadsBack) : e.TypesReadBack :=
  typesReadBack_of_record (record_of_assemble h ▸ hparts)

/-- What stands in for parts that are left out holds no types. -/
def DefaultsReadBack (formats : List PartFormat) : Prop :=
  ∀ f ∈ formats, ∀ p, f.absent = some p → p.ReadsBack

theorem Kind.defaultsReadBack (kind : Kind) : DefaultsReadBack kind.parts := by
  cases kind <;> simp [DefaultsReadBack, Kind.parts, required, Part.ReadsBack]

theorem readsBack_of_completeParts {seen : List (String × Part)} {formats : List PartFormat}
    {parts : List Part} (hseen : ∀ s ∈ seen, s.2.ReadsBack) (hdefaults : DefaultsReadBack formats)
    (h : completeParts seen formats = .ok parts) : ∀ p ∈ parts, p.ReadsBack := by
  induction formats generalizing parts with
  | nil => cases h; exact nofun
  | cons f formats ih =>
    obtain ⟨hf, hdefaults⟩ := List.forall_mem_cons.mp hdefaults
    rw [completeParts] at h
    split at h
    · rename_i v hlookup
      obtain ⟨rest, hrest, rfl⟩ := Decoded.exists_of_map h
      obtain ⟨before, after, rfl, -⟩ := List.lookup_eq_some_iff.mp hlookup
      have hv : v.ReadsBack := hseen (f.name, v) (by simp)
      exact List.forall_mem_cons.mpr ⟨hv, ih hdefaults hrest⟩
    · rename_i v hlookup habsent
      obtain ⟨rest, hrest, rfl⟩ := Decoded.exists_of_map h
      exact List.forall_mem_cons.mpr ⟨hf v habsent, ih hdefaults hrest⟩
    · cases h

theorem readsBack_of_absentParts {kind : Kind} {index : Nat} {formats : List PartFormat}
    {parts : List Part} (hdefaults : DefaultsReadBack formats)
    (h : absentParts kind index formats = .ok parts) : ∀ p ∈ parts, p.ReadsBack := by
  induction formats generalizing index parts with
  | nil => cases h; exact nofun
  | cons f formats ih =>
    obtain ⟨hf, hdefaults⟩ := List.forall_mem_cons.mp hdefaults
    rw [absentParts] at h
    split at h
    · rename_i v habsent
      obtain ⟨rest, hrest, rfl⟩ := Decoded.exists_of_map h
      exact List.forall_mem_cons.mpr ⟨hf v habsent, ih hdefaults hrest⟩
    · cases h

theorem readsBack_of_visitFlat {seen all : List (String × Part)} {fields : List (String × Json)}
    (hseen : ∀ s ∈ seen, s.2.ReadsBack) (h : decodeFlat.visitFlat seen fields = .ok all) :
    ∀ s ∈ all, s.2.ReadsBack := by
  induction fields generalizing seen with
  | nil => cases h; exact hseen
  | cons field fields ih =>
    obtain ⟨key, value⟩ := field
    rw [decodeFlat.visitFlat] at h
    split at h
    · split at h
      · cases h
      · split at h
        · obtain ⟨s, -, h⟩ := Decoded.exists_of_bind h
          have hnext : ∀ x ∈ (key, Part.text s) :: seen, x.2.ReadsBack :=
            List.forall_mem_cons.mpr ⟨trivial, hseen⟩
          exact ih hnext h
        · obtain ⟨t, ht, h⟩ := Decoded.exists_of_bind h
          have hnext : ∀ x ∈ (key, Part.type t) :: seen, x.2.ReadsBack :=
            List.forall_mem_cons.mpr ⟨Ty.readsBack_of_decode ht, hseen⟩
          exact ih hnext h
    · exact ih hseen h

theorem readsBack_of_decodeParameter {j : Json} {p : Parameter}
    (h : decodeFlat.decodeParameter j = .ok p) : p.type.ReadsBack := by
  have hsecond {name : String} {type : Ty}
      (hparts : ∀ part ∈ [Part.text name, Part.type type], part.ReadsBack) : type.ReadsBack :=
    hparts _ (List.mem_cons_of_mem _ List.mem_cons_self)
  unfold decodeFlat.decodeParameter at h
  dsimp only at h
  split at h
  · obtain ⟨seen, hseen, h⟩ := Decoded.exists_of_bind h
    obtain ⟨parts, hparts, h⟩ := Decoded.exists_of_bind h
    have hread := readsBack_of_completeParts
      (readsBack_of_visitFlat (List.forall_mem_nil _) hseen)
      (Kind.defaultsReadBack .parameter) hparts
    split at h
    · cases h
      exact hsecond hread
    · cases h
  · obtain ⟨parts, hparts, h⟩ := Decoded.exists_of_bind h
    have hread := readsBack_of_absentParts (Kind.defaultsReadBack .parameter) hparts
    split at h
    · cases h
      exact hsecond hread
    · cases h
  · obtain ⟨name, -, h⟩ := Decoded.exists_of_bind h
    cases h
  · obtain ⟨name, -, h⟩ := Decoded.exists_of_bind h
    obtain ⟨type, htype, h⟩ := Decoded.exists_of_bind h
    split at h
    · cases h
      exact Ty.readsBack_of_decode htype
    · cases h
  · cases h

theorem readsBack_of_decodeParameters {items : List Json} {ps : List Parameter}
    (h : decodeFlat.decodeParameters items = .ok ps) : ∀ p ∈ ps, p.type.ReadsBack := by
  rw [decodeParameters_eq] at h
  exact Decoded.forall_of_mapM (fun _ _ _ => readsBack_of_decodeParameter) h

theorem readsBack_of_decodeFlat {shape : Shape} {j : Json} {p : Part}
    (h : decodeFlat shape j = .ok p) : p.ReadsBack := by
  cases shape with
  | text | optionalText | literal | operator =>
    obtain ⟨a, -, rfl⟩ := Decoded.exists_of_map h
    exact trivial
  | type =>
    obtain ⟨t, ht, rfl⟩ := Decoded.exists_of_map h
    exact Ty.readsBack_of_decode ht
  | types =>
    cases j with
    | array items =>
      obtain ⟨ts, hts, rfl⟩ := Decoded.exists_of_map h
      exact Ty.readsBack_of_decodeList hts
    | _ => cases h
  | parameters =>
    cases j with
    | array items =>
      obtain ⟨ps, hps, rfl⟩ := Decoded.exists_of_map h
      exact readsBack_of_decodeParameters hps
    | _ => cases h
  | node | optionalNode | nodes => cases h

/-- What is read from the value, as a node or as a list of nodes, has types that are read back. -/
structure ReadsSoundly (j : Json) : Prop where
  node : ∀ nested e, decodeNode nested j = .ok e → e.TypesReadBack
  nodes : ∀ es, decodeNodes j = .ok es → ∀ e ∈ es, e.TypesReadBack

namespace ReadsSoundly

theorem decodePart {shape : Shape} {j : Json} {p : Part} (hj : ReadsSoundly j)
    (h : decodePart shape j (fun _ => decodeNode true j) (fun _ => decodeNodes j) = .ok p) :
    p.ReadsBack := by
  cases shape with
  | node =>
    obtain ⟨e, he, rfl⟩ := Decoded.exists_of_map h
    exact hj.node true e he
  | optionalNode =>
    cases j with
    | null => cases h; exact nofun
    | _ =>
      simp only [Expr.decodePart] at h
      obtain ⟨e, he, rfl⟩ := Decoded.exists_of_map h
      simpa [Part.ReadsBack] using hj.node true e he
  | nodes =>
    obtain ⟨es, hes, rfl⟩ := Decoded.exists_of_map h
    exact hj.nodes es hes
  | text | optionalText | type | types | literal | operator | parameters =>
    rw [Expr.decodePart] at h
    · exact readsBack_of_decodeFlat h
    all_goals nofun

theorem visitParts {kind : Kind} {seen all : List (String × Part)} {fields : List (String × Json)}
    (hfields : ∀ field ∈ fields, ReadsSoundly field.2) (hseen : ∀ s ∈ seen, s.2.ReadsBack)
    (h : visitParts kind seen fields = .ok all) : ∀ s ∈ all, s.2.ReadsBack := by
  induction fields generalizing seen with
  | nil => cases h; exact hseen
  | cons field fields ih =>
    obtain ⟨key, value⟩ := field
    obtain ⟨hfield, hfields⟩ := List.forall_mem_cons.mp hfields
    rw [Expr.visitParts] at h
    split at h
    · exact ih hfields hseen h
    · split at h
      · cases h
      · split at h
        · rename_i v hv
          exact ih hfields (List.forall_mem_cons.mpr ⟨hfield.decodePart hv, hseen⟩) h
        · cases h

theorem listParts {kind : Kind} {length index : Nat} {formats : List PartFormat}
    {items : List Json} {parts : List Part} (hitems : ∀ j ∈ items, ReadsSoundly j)
    (hdefaults : DefaultsReadBack formats)
    (h : listParts kind length index formats items = .ok parts) : ∀ p ∈ parts, p.ReadsBack := by
  induction items generalizing index formats parts with
  | nil =>
    rw [Expr.listParts] at h
    exact readsBack_of_absentParts hdefaults h
  | cons j items ih =>
    obtain ⟨hj, hitems⟩ := List.forall_mem_cons.mp hitems
    cases formats with
    | nil => cases h
    | cons f formats =>
      rw [Expr.listParts] at h
      split at h
      · rename_i v hv
        obtain ⟨rest, hrest, rfl⟩ := Decoded.exists_of_map h
        have hdefaults := (List.forall_mem_cons.mp hdefaults).2
        exact List.forall_mem_cons.mpr ⟨hj.decodePart hv, ih hitems hdefaults hrest⟩
      · cases h

theorem decodeItems {items : List Json} {es : List Expr} (hitems : ∀ j ∈ items, ReadsSoundly j)
    (h : decodeItems items = .ok es) : ∀ e ∈ es, e.TypesReadBack := by
  rw [decodeItems_eq] at h
  exact Decoded.forall_of_mapM (fun j hj e he => (hitems j hj).node true e he) h

end ReadsSoundly

theorem readsSoundly (j : Json) : ReadsSoundly j := by
  induction j using Json.induction with
  | null | bool _ | int _ | float _ | string _ => exact ⟨nofun, nofun⟩
  | array items ih =>
    refine ⟨fun nested e h => ?_, fun es h => ReadsSoundly.decodeItems ih h⟩
    cases items with
    | nil => cases h
    | cons tag items =>
      obtain ⟨kind, -, h⟩ := Decoded.exists_of_bind h
      obtain ⟨parts, hparts, h⟩ := Decoded.exists_of_bind h
      have hitems := (List.forall_mem_cons.mp ih).2
      exact typesReadBack_of_assemble h
        (ReadsSoundly.listParts hitems kind.defaultsReadBack hparts)
  | object fields ih =>
    refine ⟨fun nested e h => ?_, nofun⟩
    obtain ⟨kind, -, h⟩ := Decoded.exists_of_bind h
    obtain ⟨seen, hseen, h⟩ := Decoded.exists_of_bind h
    obtain ⟨parts, hparts, h⟩ := Decoded.exists_of_bind h
    have hsound := ReadsSoundly.visitParts ih (List.forall_mem_nil _) hseen
    exact typesReadBack_of_assemble h
      (readsBack_of_completeParts hsound kind.defaultsReadBack hparts)

/-- A tree is read back from what it is written as, if its types are; and the types of every tree
that was read are, so that to write it, to read that and to write it again changes nothing. -/
theorem decode_encode_lossless :
    (∀ e : Expr, e.WithoutDoubles → e.TypesReadBack → decode e.encode = .ok e) ∧
    (∀ j e, decode j = .ok e → e.TypesReadBack) ∧
    ∀ j e, decode j = .ok e → e.WithoutDoubles →
      decode e.encode = .ok e ∧ (decode e.encode).map encode = .ok e.encode := by
  have hback : ∀ e : Expr, e.WithoutDoubles → e.TypesReadBack → decode e.encode = .ok e :=
    fun e hdouble htypes => decodeNode_encode hdouble htypes false
  have hsound : ∀ j e, decode j = .ok e → e.TypesReadBack :=
    fun j e h => (readsSoundly j).node false e h
  refine ⟨hback, hsound, fun j e h hdouble => ?_⟩
  have he := hback e hdouble (hsound j e h)
  exact ⟨he, by rw [he]; rfl⟩

/-- Fields in another order, a receiver that is null, nodes that are lists, and parts left out: what
is read is written in the one order of declaration, without receiver or type arguments. -/
theorem decode_encode_lossless_listed :
    let j : Json := .object
      [("method", .string "f"), ("type", .string " int"), ("receiver", .null),
       ("kind", .string "call"), ("declaringType", .string "A < int >"),
       ("arguments", .array
         [.array [.string "constant", .string "null", .string "T ?", .string "x"],
          .array [.int 1, .object [("integer", .int (-3))], .string "long"],
          .object [("kind", .int 6), ("method", .string "g"), ("declaringType", .string "B"),
            ("type", .string "bool")]])]
    let e : Expr := .staticCall (.named "A" [.int]) "f" []
      [.constant .null (.nullable (.named "T" [])) (some "x"),
       .constant (.integer (-3)) .long none,
       .staticCall (.named "B" []) "g" [] [] .bool] .int
    decode j = .ok e ∧ e.TypesReadBack ∧ decode e.encode = .ok e := by
  intro j e
  have hj : decode j = .ok e := by rfl
  have hdouble : e.WithoutDoubles := by simp [e, WithoutDoubles, nodes, nodesOfAll]
  exact ⟨hj, decode_encode_lossless.2.1 j e hj, (decode_encode_lossless.2.2 j e hj hdouble).1⟩

end Expr

end Legible
