import Legible.Proofs.SerializedParts

/-!
# Reading fields by name

An object is read in the order in which it is written, and the first fault ends the reading. What
is read, if anything, depends only on the values that go by each name: a part is there if one
readable value goes by its name, or none at all and the part may be left out.
-/

namespace Legible

namespace Json

def named (name : String) (fields : List (String × Json)) : List Json :=
  (fields.filter fun f => f.1 == name).map (·.2)

theorem named_cons_self (name : String) (j : Json) (fields : List (String × Json)) :
    named name ((name, j) :: fields) = j :: named name fields := by
  simp [named]

theorem named_cons_of_ne {name key : String} (h : key ≠ name) (j : Json)
    (fields : List (String × Json)) : named name ((key, j) :: fields) = named name fields := by
  simp [named, h]

namespace Decoded

variable {α β : Type}

theorem toOption_map (x : Decoded α) (f : α → β) : (x.map f).toOption = x.toOption.map f := by
  cases x <;> rfl

theorem toOption_bind (x : Decoded α) (f : α → Decoded β) :
    (x >>= f).toOption = x.toOption.bind fun a => (f a).toOption := by
  cases x <;> rfl

end Decoded

end Json

open Json (Decoded named)

namespace Expr

/-- The kind that the fields name, if exactly one of them does. -/
def kindIn? (nested : Bool) (fields : List (String × Json)) : Option Kind :=
  match named "kind" fields with
  | [value] => (Kind.decode nested value).toOption
  | _ => none

theorem toOption_find (nested : Bool) (fields : List (String × Json)) :
    (Kind.find nested fields).toOption = kindIn? nested fields := by
  unfold Kind.find kindIn? named
  cases fields.filter fun f => f.1 == "kind" with
  | nil => rfl
  | cons field rest =>
    obtain ⟨key, value⟩ := field
    simp only [Decoded.toOption_bind, List.map_cons]
    cases rest with
    | nil =>
      change _ = (Kind.decode nested value).toOption
      cases Kind.decode nested value <;> rfl
    | cons => cases Kind.decode nested value <;> rfl

namespace PartFormat

def read (p : PartFormat) (j : Json) : Decoded Part :=
  decodePart p.shape j (fun _ => decodeNode true j) (fun _ => decodeNodes j)

/-- The part that comes of one that was seen before and of the values that follow. -/
def settle (p : PartFormat) (seen : Option Part) (values : List Json) : Option Part :=
  match seen, values with
  | none, [] => p.absent
  | none, [j] => (p.read j).toOption
  | some v, [] => some v
  | _, _ => none

theorem settle_nil (p : PartFormat) (seen : Option Part) : p.settle seen [] = seen.or p.absent := by
  cases seen <;> rfl

theorem settle_of_unreadable {p : PartFormat} {j : Json} {e : DecodeError}
    (h : p.read j = .error e) (rest : List Json) : p.settle none (j :: rest) = none := by
  cases rest with
  | nil =>
    rw [settle, h]
    rfl
  | cons => rfl

theorem settle_of_read {p : PartFormat} {j : Json} {v : Part} (h : p.read j = .ok v)
    (rest : List Json) : p.settle none (j :: rest) = p.settle (some v) rest := by
  cases rest with
  | nil =>
    rw [settle, h]
    rfl
  | cons => rfl

end PartFormat

theorem toOption_completeParts (seen : List (String × Part)) (formats : List PartFormat) :
    (completeParts seen formats).toOption =
      formats.mapM fun p => (seen.lookup p.name).or p.absent := by
  have hmap (v : Part) (parts : Option (List Part)) :
      parts.map (v :: ·) = parts.bind fun rest => some (v :: rest) := by
    cases parts <;> rfl
  induction formats with
  | nil => rfl
  | cons p formats ih =>
    rw [completeParts, List.mapM_cons, ← ih]
    cases seen.lookup p.name with
    | some v => exact (Decoded.toOption_map _ _).trans (hmap v _)
    | none =>
      cases p.absent with
      | some v => exact (Decoded.toOption_map _ _).trans (hmap v _)
      | none => rfl

theorem mapM_eq_none_of_mem {α β : Type} {f : α → Option β} {as : List α} {a : α} (ha : a ∈ as)
    (h : f a = none) : as.mapM f = none := by
  induction as with
  | nil => cases ha
  | cons b as ih =>
    rw [List.mapM_cons]
    rcases List.mem_cons.mp ha with rfl | ha
    · rw [h]
      rfl
    · rw [ih ha]
      cases f b <;> rfl

theorem mapM_congr_of_mem {α β : Type} {f g : α → Option β} {as : List α}
    (h : ∀ a ∈ as, f a = g a) : as.mapM f = as.mapM g := by
  induction as with
  | nil => rfl
  | cons b as ih =>
    obtain ⟨hb, has⟩ := List.forall_mem_cons.mp h
    rw [List.mapM_cons, List.mapM_cons, hb, ih has]

theorem Kind.part?_eq_some_iff {kind : Kind} {name : String} {p : PartFormat} :
    kind.part? name = some p ↔ p ∈ kind.parts ∧ p.name = name := by
  constructor
  · intro h
    rw [part?] at h
    have hname := List.find?_some h
    exact ⟨List.mem_of_find?_eq_some h, beq_iff_eq.mp hname⟩
  · rintro ⟨hp, rfl⟩
    exact part?_name hp

/-- A known field is read unless one of its name was seen. -/
theorem visitParts_of_part? {kind : Kind} {q : PartFormat} (hq : kind.part? q.name = some q)
    (seen : List (String × Part)) (value : Json) (fields : List (String × Json)) :
    visitParts kind seen ((q.name, value) :: fields) =
      if (seen.lookup q.name).isSome then .error (.duplicateField q.name)
      else q.read value >>= fun v => visitParts kind ((q.name, v) :: seen) fields := by
  rw [visitParts, hq, PartFormat.read]
  dsimp only
  congr 1
  cases decodePart q.shape value (fun _ => decodeNode true value) (fun _ => decodeNodes value) <;>
    rfl

/-- What has been seen and what follows decide about each part on its own. -/
theorem toOption_visitParts (kind : Kind) (seen : List (String × Part))
    (fields : List (String × Json)) :
    (visitParts kind seen fields >>= fun all => completeParts all kind.parts).toOption =
      kind.parts.mapM fun p => p.settle (seen.lookup p.name) (named p.name fields) := by
  induction fields generalizing seen with
  | nil =>
    simp only [named, List.filter_nil, List.map_nil, PartFormat.settle_nil]
    exact toOption_completeParts seen kind.parts
  | cons field fields ih =>
    obtain ⟨key, value⟩ := field
    cases hpart : kind.part? key with
    | none =>
      rw [visitParts, hpart]
      refine (ih seen).trans (mapM_congr_of_mem fun p hp => ?_)
      have hne : key ≠ p.name := by
        rintro rfl
        cases hpart.symm.trans (Kind.part?_name hp)
      rw [Json.named_cons_of_ne hne]
    | some q =>
      obtain ⟨hq, rfl⟩ := Kind.part?_eq_some_iff.mp hpart
      -- the part of this name decides wherever the reading ends here
      have hfault (h : q.settle (seen.lookup q.name) (value :: named q.name fields) = none) :
          (kind.parts.mapM fun p => p.settle (seen.lookup p.name)
            (named p.name ((q.name, value) :: fields))) = none := by
        apply mapM_eq_none_of_mem hq
        rwa [Json.named_cons_self]
      rw [visitParts_of_part? hpart]
      cases hseen : seen.lookup q.name with
      | some v =>
        rw [hfault (by rw [hseen]; rfl)]
        rfl
      | none =>
        cases hread : q.read value with
        | error e =>
          rw [hfault (by rw [hseen, PartFormat.settle_of_unreadable hread])]
          rfl
        | ok v =>
          refine (ih ((q.name, v) :: seen)).trans ?_
          apply mapM_congr_of_mem
          intro p hp
          by_cases hpq : p.name = q.name
          · have heq : p = q := by
              rw [← hpq, Kind.part?_name hp] at hpart
              exact Option.some.inj hpart
            subst p
            rw [List.lookup_cons_self, hseen, Json.named_cons_self,
              PartFormat.settle_of_read hread]
          · rw [Json.named_cons_of_ne (Ne.symm hpq), List.lookup_cons,
              beq_eq_false_iff_ne.mpr hpq]

/-! ## Nodes and parameters -/

def partIn? (fields : List (String × Json)) (p : PartFormat) : Option Part :=
  p.settle none (named p.name fields)

theorem toOption_parts (kind : Kind) (fields : List (String × Json)) :
    (visitParts kind [] fields >>= fun all => completeParts all kind.parts).toOption =
      kind.parts.mapM (partIn? fields) :=
  toOption_visitParts kind [] fields

theorem toOption_assemble (kind : Kind) (parts : List Part) :
    (assemble kind parts).toOption = ofParts kind parts := by
  unfold assemble
  cases ofParts kind parts <;> rfl

theorem toOption_decodeNode_object (nested : Bool) (fields : List (String × Json)) :
    (decodeNode nested (.object fields)).toOption =
      (kindIn? nested fields).bind fun kind =>
        (kind.parts.mapM (partIn? fields)).bind (ofParts kind) := by
  rw [decodeNode, Decoded.toOption_bind, toOption_find]
  congr 1
  funext kind
  rw [← toOption_parts, ← bind_assoc, Decoded.toOption_bind]
  congr 1
  funext parts
  exact toOption_assemble kind parts

theorem visitFlat_of_mem {q : PartFormat} (hq : q ∈ Kind.parameter.parts)
    (seen : List (String × Part)) (value : Json) (fields : List (String × Json)) :
    decodeFlat.visitFlat seen ((q.name, value) :: fields) =
      if (seen.lookup q.name).isSome then .error (.duplicateField q.name)
      else q.read value >>= fun v => decodeFlat.visitFlat ((q.name, v) :: seen) fields := by
  rw [decodeFlat.visitFlat]
  rcases List.mem_pair.mp hq with rfl | rfl
  · rw [if_pos (.inl rfl)]
    congr 1
    change _ = value.asString.map Part.text >>= _
    cases value.asString <;> rfl
  · rw [if_pos (.inr rfl)]
    congr 1
    change _ = (Ty.decode value).map Part.type >>= _
    cases Ty.decode value <;> rfl

/-- A parameter is read like a node of that kind. -/
theorem visitFlat_eq (seen : List (String × Part)) (fields : List (String × Json)) :
    decodeFlat.visitFlat seen fields = visitParts .parameter seen fields := by
  induction fields generalizing seen with
  | nil => rfl
  | cons field fields ih =>
    obtain ⟨key, value⟩ := field
    cases hpart : Kind.parameter.part? key with
    | some q =>
      obtain ⟨hq, rfl⟩ := Kind.part?_eq_some_iff.mp hpart
      rw [visitFlat_of_mem hq, visitParts_of_part? hpart]
      simp only [ih]
    | none =>
      have hunknown : ¬(key = "name" ∨ key = "type") := by
        rintro (rfl | rfl)
        · cases hpart
        · cases hpart
      rw [decodeFlat.visitFlat, visitParts, hpart, if_neg hunknown]
      exact ih seen

def parameterOf? : List Part → Option Parameter
  | [.text name, .type type] => some ⟨name, type⟩
  | _ => none

theorem toOption_decodeParameter_object (fields : List (String × Json)) :
    (decodeFlat.decodeParameter (.object fields)).toOption =
      (Kind.parameter.parts.mapM (partIn? fields)).bind parameterOf? := by
  rw [decodeFlat.decodeParameter, ← toOption_parts, ← visitFlat_eq]
  dsimp only
  rw [← bind_assoc, Decoded.toOption_bind]
  congr 1
  funext parts
  fun_cases parameterOf? parts with
  | case1 name type => rfl
  | case2 parts hother =>
    split
    · exact (hother _ _ rfl).elim
    · rfl

end Expr

end Legible
