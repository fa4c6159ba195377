import Legible.Expr.Codec
import Legible.Proofs.Nodes
import Mathlib

/-!
# Nodes as records of parts

A node is written as its kind and those of its parts that are not left out. Each written part is
read back by the format of its name, and a part is left out only where the format puts the same part
in its place. From that a node is read back once its parts are.
-/

namespace Legible

namespace Json.Decoded

variable {α : Type} {read : Json → Decoded α}

theorem mapM_map {write : α → Json} {as : List α} (h : ∀ a ∈ as, read (write a) = .ok a) :
    (as.map write).mapM read = .ok as := by
  induction as with
  | nil => rfl
  | cons a as ih =>
    obtain ⟨ha, has⟩ := List.forall_mem_cons.mp h
    rw [List.map_cons, List.mapM_cons, ha, ih has]
    rfl

theorem exists_of_bind {β : Type} {x : Decoded α} {f : α → Decoded β} {b : β}
    (h : x >>= f = .ok b) : ∃ a, x = .ok a ∧ f a = .ok b := by
  cases x with
  | error e => cases h
  | ok a => exact ⟨a, rfl, h⟩

theorem exists_of_map {β : Type} {x : Decoded α} {f : α → β} {b : β} (h : x.map f = .ok b) :
    ∃ a, x = .ok a ∧ f a = b := by
  cases x with
  | error e => cases h
  | ok a => exact ⟨a, rfl, Except.ok.inj h⟩

/-- What holds of each value read from an item holds of all that are read. -/
theorem forall_of_mapM {P : α → Prop} {items : List Json} {as : List α}
    (hread : ∀ j ∈ items, ∀ a, read j = .ok a → P a) (h : items.mapM read = .ok as) :
    ∀ a ∈ as, P a := by
  induction items generalizing as with
  | nil => cases h; exact List.forall_mem_nil _
  | cons j items ih =>
    obtain ⟨hj, hitems⟩ := List.forall_mem_cons.mp hread
    rw [List.mapM_cons] at h
    obtain ⟨a, ha, h⟩ := exists_of_bind h
    obtain ⟨rest, hrest, h⟩ := exists_of_bind h
    cases h
    exact List.forall_mem_cons.mpr ⟨hj a ha, ih hitems hrest⟩

end Json.Decoded

open Json (Decoded)

namespace Ty

theorem decode_encode {t : Ty} (h : parse t.text = .ok t) : decode t.encode = .ok t := by
  change (parse t.text).mapError _ = _
  rw [h]
  rfl

theorem decodeList_eq (items : List Json) : decodeList items = items.mapM decode := by
  induction items with
  | nil => rfl
  | cons j items ih => rw [decodeList, ih, List.mapM_cons]

end Ty

theorem Json.asInt64_toInt (n : Int64) : asInt64 (.int n.toInt) = .ok n := by
  have hlow := n.le_toInt
  have hhigh := n.toInt_lt
  have hrange : -9223372036854775808 ≤ n.toInt ∧ n.toInt ≤ 9223372036854775807 := by omega
  simp [asInt64, asInteger, hrange, Except.map]

theorem Json.asChar_toString (c : Char) : asChar (.string c.toString) = .ok c := by
  simp [asChar]

theorem Literal.decode_encode {value : Literal} (h : ∀ x, value ≠ .double x) (inTree : Bool) :
    decode inTree value.encode = .ok value := by
  cases value with
  | null => rfl
  | bool b => rfl
  | integer n =>
    change (Json.asInt64 (.int n.toInt)).map Literal.integer = _
    rw [Json.asInt64_toInt]
    rfl
  | decimal d =>
    have hd : DecimalText.parse d.text = .ok d := dif_pos d.wellFormed
    change ((DecimalText.parse d.text).mapError _).map Literal.decimal = _
    rw [hd]
    rfl
  | double x => exact absurd rfl (h x)
  | char c =>
    change (Json.asChar (.string c.toString)).map Literal.char = _
    rw [Json.asChar_toString]
    rfl
  | string s => rfl

theorem BinaryOp.decode_tag (op : BinaryOp) : decode (.string op.tag) = .ok op := by
  cases op <;> rfl

namespace Expr

theorem decodeParameter_encode {p : Parameter} (h : Ty.parse p.type.text = .ok p.type) :
    decodeFlat.decodeParameter p.encode = .ok p := by
  have hseen : decodeFlat.visitFlat [] [("name", .string p.name), ("type", p.type.encode)] =
      .ok [("type", .type p.type), ("name", .text p.name)] := by
    simp [decodeFlat.visitFlat, Json.asString, Ty.decode_encode h, bind, Except.bind, List.lookup]
  unfold decodeFlat.decodeParameter Parameter.encode
  simp only [hseen]
  rfl

theorem decodeParameters_eq (items : List Json) :
    decodeFlat.decodeParameters items = items.mapM decodeFlat.decodeParameter := by
  induction items with
  | nil => rfl
  | cons j items ih => rw [decodeFlat.decodeParameters, ih, List.mapM_cons]

theorem decodeItems_eq (items : List Json) : decodeItems items = items.mapM (decodeNode true) := by
  induction items with
  | nil => rfl
  | cons j items ih => rw [decodeItems, ih, List.mapM_cons]

theorem encodeList_eq (es : List Expr) : encodeList es = es.map encode := by
  induction es with
  | nil => rfl
  | cons e es ih => rw [encodeList, ih, List.map_cons]

def Part.written? : Part → Option Json
  | .text s => some (.string s)
  | .optionalText s => s.map .string
  | .type t => some t.encode
  | .types [] => none
  | .types (t :: ts) => some (.array ((t :: ts).map Ty.encode))
  | .literal value => some value.encode
  | .operator op => some (.string op.tag)
  | .node e => some e.encode
  | .optionalNode e => e.map encode
  | .nodes es => some (.array (encodeList es))
  | .parameters ps => some (.array (ps.map Parameter.encode))

/-- The parts of a node, those that are no nodes included, in the order of declaration. -/
def record : Expr → List Part
  | .parameter p => [.text p.name, .type p.type]
  | .constant value type captured => [.literal value, .type type, .optionalText captured]
  | .property receiver name type => [.node receiver, .text name, .type type]
  | .index receiver arguments type => [.node receiver, .nodes arguments, .type type]
  | .binary op left right type => [.operator op, .node left, .node right, .type type]
  | .conditional test ifTrue ifFalse type =>
    [.node test, .node ifTrue, .node ifFalse, .type type]
  | .call receiver method declaring types arguments type =>
    [.optionalNode (some receiver), .text method, .type declaring, .types types, .nodes arguments,
     .type type]
  | .staticCall declaring method types arguments type =>
    [.optionalNode none, .text method, .type declaring, .types types, .nodes arguments, .type type]
  | .lambda parameters body type => [.parameters parameters, .node body, .type type]

theorem assemble_record (e : Expr) : assemble e.kind e.record = .ok e := by
  cases e <;> rfl

theorem record_of_assemble {kind : Kind} {parts : List Part} {e : Expr}
    (h : assemble kind parts = .ok e) : e.record = parts := by
  unfold assemble at h
  split at h
  · rename_i e' he
    cases h
    unfold ofParts at he
    split at he <;> cases he <;> rfl
  · cases h

def writtenFields : List PartFormat → List Part → List (String × Json)
  | f :: formats, p :: parts =>
    match p.written? with
    | some j => (f.name, j) :: writtenFields formats parts
    | none => writtenFields formats parts
  | _, _ => []

theorem encode_eq (e : Expr) :
    e.encode =
      .object (("kind", .string e.kind.tag) :: writtenFields e.kind.parts e.record) := by
  cases e with
  | constant value type captured => cases captured <;> rfl
  | call receiver method declaring types arguments type => cases types <;> rfl
  | staticCall declaring method types arguments type => cases types <;> rfl
  | parameter _ | property _ _ _ | index _ _ _ | binary _ _ _ _ | conditional _ _ _ _
  | lambda _ _ _ => rfl

theorem name_mem_of_mem_writtenFields {formats : List PartFormat} {parts : List Part}
    {field : String × Json} (h : field ∈ writtenFields formats parts) :
    field.1 ∈ formats.map (·.name) := by
  induction formats generalizing parts with
  | nil => cases parts <;> cases h
  | cons f formats ih =>
    cases parts with
    | nil => cases h
    | cons p parts =>
      rw [writtenFields] at h
      rw [List.map_cons]
      split at h
      · rcases List.mem_cons.mp h with rfl | h
        · exact List.mem_cons_self
        · exact List.mem_cons_of_mem _ (ih h)
      · exact List.mem_cons_of_mem _ (ih h)

namespace Kind

theorem nodup_names (kind : Kind) : (kind.parts.map (·.name)).Nodup := by
  cases kind <;> decide

theorem kind_not_mem_names (kind : Kind) : "kind" ∉ kind.parts.map (·.name) := by
  cases kind <;> decide

theorem decode_tag (nested : Bool) (kind : Kind) : decode nested (.string kind.tag) = .ok kind := by
  cases kind <;> rfl

theorem part?_eq_none {kind : Kind} {name : String} (h : name ∉ kind.parts.map (·.name)) :
    kind.part? name = none := by
  rw [part?, List.find?_eq_none]
  intro f hf he
  exact h (List.mem_map.mpr ⟨f, hf, beq_iff_eq.mp he⟩)

theorem part?_name {kind : Kind} {f : PartFormat} (h : f ∈ kind.parts) :
    kind.part? f.name = some f := by
  have hnodup := kind.nodup_names
  unfold part?
  generalize kind.parts = formats at h hnodup
  induction formats with
  | nil => cases h
  | cons g formats ih =>
    obtain ⟨hg, hrest⟩ := List.nodup_cons.mp hnodup
    rcases List.mem_cons.mp h with rfl | h
    · exact List.find?_cons_of_pos (beq_self_eq_true _)
    · have hne : g.name ≠ f.name := fun he => hg (List.mem_map.mpr ⟨f, h, he.symm⟩)
      rw [List.find?_cons_of_neg (by simpa using hne)]
      exact ih h hrest

theorem find_cons_of_not_mem (nested : Bool) (kind : Kind) {fields : List (String × Json)}
    (h : "kind" ∉ fields.map (·.1)) :
    find nested (("kind", .string kind.tag) :: fields) = .ok kind := by
  have hrest : fields.filter (fun f => f.1 == "kind") = [] := by
    rw [List.filter_eq_nil_iff]
    intro f hf he
    exact h (List.mem_map.mpr ⟨f, hf, beq_iff_eq.mp he⟩)
  simp [find, hrest, decode_tag, bind, Except.bind, pure, Except.pure]

end Kind

/-- The format gives the part back, both from what is written of it and when it is left out. -/
structure PartFormat.Restores (f : PartFormat) (p : Part) : Prop where
  written : ∀ j, p.written? = some j →
    decodePart f.shape j (fun _ => decodeNode true j) (fun _ => decodeNodes j) = .ok p
  left_out : p.written? = none → f.absent = some p

/-- What has been read holds the parts that were written, and no others of their names. -/
def Holds (seen : List (String × Part)) (f : PartFormat) (p : Part) : Prop :=
  seen.lookup f.name = p.written?.map fun _ => p

theorem visitParts_writtenFields {kind : Kind} {formats : List PartFormat} {parts : List Part}
    (h : List.Forall₂ PartFormat.Restores formats parts)
    (hformats : ∀ f ∈ formats, kind.part? f.name = some f)
    (hnodup : (formats.map (·.name)).Nodup) (seen : List (String × Part))
    (hseen : ∀ f ∈ formats, seen.lookup f.name = none) :
    ∃ all, visitParts kind seen (writtenFields formats parts) = .ok all ∧
      (∀ name ∉ formats.map (·.name), all.lookup name = seen.lookup name) ∧
      List.Forall₂ (Holds all) formats parts := by
  induction h generalizing seen with
  | nil => exact ⟨seen, rfl, fun _ _ => rfl, .nil⟩
  | @cons f p formats parts hp hrest ih =>
    obtain ⟨hf, hformats⟩ := List.forall_mem_cons.mp hformats
    obtain ⟨hname, hnodup⟩ := List.nodup_cons.mp hnodup
    obtain ⟨hfree, hseen⟩ := List.forall_mem_cons.mp hseen
    cases hw : p.written? with
    | none =>
      obtain ⟨all, hall, hother, hholds⟩ := ih hformats hnodup seen hseen
      refine ⟨all, by rw [writtenFields, hw]; exact hall, ?_, .cons ?_ hholds⟩
      · intro name hn
        exact hother name fun hmem => hn (List.mem_cons_of_mem _ hmem)
      · rw [Holds, hother f.name hname, hfree, hw]
        rfl
    | some j =>
      -- the names differ, so the part just read stands in the way of no later one
      have hnext : ∀ g ∈ formats, ((f.name, p) :: seen).lookup g.name = none := by
        intro g hg
        have hne : g.name ≠ f.name := fun he => hname (List.mem_map.mpr ⟨g, hg, he⟩)
        rw [List.lookup_cons, beq_eq_false_iff_ne.mpr hne]
        exact hseen g hg
      obtain ⟨all, hall, hother, hholds⟩ := ih hformats hnodup ((f.name, p) :: seen) hnext
      refine ⟨all, ?_, ?_, .cons ?_ hholds⟩
      · rw [writtenFields, hw]
        simp only [visitParts, hf, hfree, hp.written j hw]
        exact hall
      · intro name hn
        obtain ⟨hne, hn⟩ := not_or.mp (mt List.mem_cons.mpr hn)
        rw [hother name hn, List.lookup_cons, beq_eq_false_iff_ne.mpr hne]
      · rw [Holds, hother f.name hname, List.lookup_cons_self, hw]
        rfl

theorem completeParts_of_holds {seen : List (String × Part)} {formats : List PartFormat}
    {parts : List Part} (hholds : List.Forall₂ (Holds seen) formats parts)
    (h : List.Forall₂ PartFormat.Restores formats parts) :
    completeParts seen formats = .ok parts := by
  induction hholds with
  | nil => rfl
  | @cons f p formats parts hf hrest ih =>
    obtain ⟨hp, h⟩ := List.forall₂_cons.mp h
    rw [Holds] at hf
    cases hw : p.written? with
    | none => simp [completeParts, hf, hw, hp.left_out hw, ih h, Except.map]
    | some j => simp [completeParts, hf, hw, ih h, Except.map]

theorem decodeNode_encode_of_restores {e : Expr}
    (h : List.Forall₂ PartFormat.Restores e.kind.parts e.record) (nested : Bool) :
    decodeNode nested e.encode = .ok e := by
  have hkind : "kind" ∉ (writtenFields e.kind.parts e.record).map (·.1) := by
    intro hmem
    obtain ⟨field, hfield, hname⟩ := List.mem_map.mp hmem
    exact e.kind.kind_not_mem_names (hname ▸ name_mem_of_mem_writtenFields hfield)
  obtain ⟨all, hall, -, hholds⟩ := visitParts_writtenFields h (fun f hf => Kind.part?_name hf)
    e.kind.nodup_names [] (fun _ _ => rfl)
  have hvisit : visitParts e.kind []
      (("kind", .string e.kind.tag) :: writtenFields e.kind.parts e.record) = .ok all := by
    rw [visitParts, Kind.part?_eq_none e.kind.kind_not_mem_names]
    exact hall
  rw [encode_eq, decodeNode, Kind.find_cons_of_not_mem nested e.kind hkind]
  simp only [bind, Except.bind, hvisit, completeParts_of_holds hholds h]
  exact assemble_record e

end Expr

end Legible
