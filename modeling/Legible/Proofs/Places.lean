import Legible.Proofs.Layout

/-!
# The places of a tree

Every conditional of a tree stands in its draft once, under the path that leads to it.
-/

namespace Legible

namespace Expr

def numbered : Nat → List Expr → List (Step × Expr)
  | _, [] => []
  | i, e :: rest => (.argument i, e) :: numbered (i + 1) rest

def branches : Expr → List (Step × Expr)
  | .parameter _ => []
  | .constant _ _ _ => []
  | .property receiver _ _ => [(.receiver, receiver)]
  | .index receiver arguments _ => (.receiver, receiver) :: numbered 0 arguments
  | .binary _ left right _ => [(.left, left), (.right, right)]
  | .conditional test ifTrue ifFalse _ => [(.test, test), (.ifTrue, ifTrue), (.ifFalse, ifFalse)]
  | .call receiver _ _ _ arguments _ => (.receiver, receiver) :: numbered 0 arguments
  | .staticCall _ _ _ arguments _ => numbered 0 arguments
  | .lambda _ body _ => [(.body, body)]

def at? (e : Expr) : Path → Option Expr
  | [] => some e
  | step :: path => (at? e path).bind fun n => n.branches.lookup step

def isConditional : Expr → Bool
  | .conditional _ _ _ _ => true
  | _ => false

theorem at?_append_singleton {e part : Expr} {step : Step} (h : e.branches.lookup step = some part)
    (path : Path) : e.at? (path ++ [step]) = part.at? path := by
  induction path with
  | nil => simpa [at?] using h
  | cons s path ih => simp only [List.cons_append, at?, ih]

theorem mem_numbered {i : Nat} {es : List Expr} {b : Step × Expr} (h : b ∈ numbered i es) :
    b.2 ∈ es ∧ ∃ j, i ≤ j ∧ b.1 = .argument j := by
  induction es generalizing i with
  | nil => cases h
  | cons e rest ih =>
    rcases List.mem_cons.mp h with rfl | h
    · exact ⟨List.mem_cons_self, i, Nat.le_refl i, rfl⟩
    · obtain ⟨hb, j, hj, hs⟩ := ih h
      exact ⟨List.mem_cons_of_mem e hb, j, by omega, hs⟩

theorem nodup_numbered (i : Nat) (es : List Expr) : ((numbered i es).map (·.1)).Nodup := by
  induction es generalizing i with
  | nil => exact List.nodup_nil
  | cons e rest ih =>
    refine List.nodup_cons.mpr ⟨?_, ih (i + 1)⟩
    intro h
    obtain ⟨b, hb, he⟩ := List.mem_map.mp h
    obtain ⟨-, j, hj, hs⟩ := mem_numbered hb
    rw [he] at hs
    cases hs
    omega

theorem receiver_not_mem_numbered (i : Nat) (es : List Expr) :
    Step.receiver ∉ (numbered i es).map (·.1) := by
  intro h
  obtain ⟨b, hb, he⟩ := List.mem_map.mp h
  obtain ⟨-, j, -, hs⟩ := mem_numbered hb
  rw [he] at hs
  cases hs

theorem nodup_branches (e : Expr) : (e.branches.map (·.1)).Nodup := by
  cases e with
  | index receiver arguments type =>
    exact List.nodup_cons.mpr ⟨receiver_not_mem_numbered 0 arguments, nodup_numbered 0 arguments⟩
  | call receiver method declaring types arguments type =>
    exact List.nodup_cons.mpr ⟨receiver_not_mem_numbered 0 arguments, nodup_numbered 0 arguments⟩
  | staticCall declaring method types arguments type => exact nodup_numbered 0 arguments
  | parameter _ | constant _ _ _ | property _ _ _ | binary _ _ _ _ | conditional _ _ _ _
  | lambda _ _ _ => simp [branches]

theorem lookup_branches {e : Expr} {b : Step × Expr} (h : b ∈ e.branches) :
    e.branches.lookup b.1 = some b.2 := by
  have hnodup := e.nodup_branches
  generalize e.branches = bs at h hnodup
  induction bs with
  | nil => cases h
  | cons c rest ih =>
    obtain ⟨hc, hrest⟩ := List.nodup_cons.mp hnodup
    rcases List.mem_cons.mp h with rfl | h
    · exact List.lookup_cons_self
    · have hne : b.1 ≠ c.1 := fun he => hc (List.mem_map.mpr ⟨b, h, he⟩)
      rw [List.lookup_cons, beq_eq_false_iff_ne.mpr hne]
      exact ih h hrest

theorem map_snd_numbered (i : Nat) (es : List Expr) : (numbered i es).map (·.2) = es := by
  induction es generalizing i with
  | nil => rfl
  | cons e rest ih => rw [numbered, List.map_cons, ih]

theorem mem_parts_of_mem_branches {e : Expr} {b : Step × Expr} (h : b ∈ e.branches) :
    b.2 ∈ e.parts := by
  have hparts : e.parts = e.branches.map (·.2) := by
    cases e <;> simp [parts, branches, map_snd_numbered]
  rw [hparts]
  exact List.mem_map_of_mem h

end Expr

namespace Draft

@[simp] theorem labels_append (a b : Draft) : (a ++ b).labels = a.labels ++ b.labels := rfl

@[simp] theorem labels_token (t : String) : (Draft.token t).labels = [] := rfl

@[simp] theorem labels_text (s : String) : (Draft.text s).labels = [] := rfl

@[simp] theorem labels_grouped (parentheses : Bool) (d : Draft) :
    (grouped parentheses d).labels = d.labels := by
  cases parentheses <;> rfl

@[simp] theorem labels_joinedTail (separator : String) (ds : List Draft) :
    (joinedTail separator ds).labels = ds.flatMap labels := by
  induction ds with
  | nil => rfl
  | cons d rest ih => simp [joinedTail, ih]

@[simp] theorem labels_joined (separator : String) (ds : List Draft) :
    (joined separator ds).labels = ds.flatMap labels := by
  cases ds with
  | nil => rfl
  | cons d rest => simp [joined]

@[simp] theorem labels_parameters (explicit : Bool) (ps : List Parameter) :
    (parameters explicit ps).labels = [] := by
  have hone (p : Parameter) : (parameter explicit p).labels = [] := by
    cases explicit <;> rfl
  unfold parameters
  split
  · rfl
  · simp [List.flatMap_map, hone]

@[simp] theorem labels_method (explicit : Bool) (name : String) (types : List Ty) :
    (method explicit name types).labels = [] := by
  unfold method
  cases explicit with
  | false => rfl
  | true => cases types <;> simp [typeArguments, List.flatMap_map, empty]

end Draft

namespace Style

theorem labels_drafts (style : Style) (path : Expr.Path) (i : Nat) (es : List Expr) :
    (style.drafts path i es).flatMap Draft.labels =
      (Expr.numbered i es).flatMap fun b => (style.draft (b.1 :: path) b.2).labels := by
  induction es generalizing i with
  | nil => rfl
  | cons e rest ih => simp only [drafts, Expr.numbered, List.flatMap_cons, ih]

theorem labels_operands (style : Style) (path : Expr.Path) (i : Nat) (es : List Expr) :
    (style.operands path i es).flatMap Draft.labels =
      (Expr.numbered i es).flatMap fun b => (style.draft (b.1 :: path) b.2).labels := by
  induction es generalizing i with
  | nil => rfl
  | cons e rest ih =>
    simp only [operands, Expr.numbered, List.flatMap_cons, ih, Draft.labels_grouped]

/-- The conditionals of a tree: the root, if it is one, and those of its parts. -/
theorem labels_draft (style : Style) (path : Expr.Path) (e : Expr) :
    (style.draft path e).labels =
      (if e.isConditional then [path] else []) ++
        e.branches.flatMap fun b => (style.draft (b.1 :: path) b.2).labels := by
  cases e with
  | staticCall declaring method types arguments type =>
    simp only [draft, Expr.branches, Expr.isConditional]
    split <;> simp [labels_drafts, labels_operands]
  | conditional test ifTrue ifFalse type =>
    simp [draft, Draft.labels, Expr.branches, Expr.isConditional]
  | parameter _ | constant _ _ _ | property _ _ _ | index _ _ _ | binary _ _ _ _
  | call _ _ _ _ _ _ | lambda _ _ _ =>
    simp [draft, Expr.branches, Expr.isConditional, labels_drafts]

theorem mem_labels {style : Style} {e : Expr} {path q : Expr.Path}
    (h : q ∈ (style.draft path e).labels) :
    ∃ below, q = below ++ path ∧ ∃ n, e.at? below = some n ∧ n.isConditional = true := by
  induction e using Expr.parts_induction generalizing path with
  | step e ih =>
    rw [labels_draft] at h
    rcases List.mem_append.mp h with h | h
    · split at h
      · rename_i hc
        exact ⟨[], List.mem_singleton.mp h, e, rfl, hc⟩
      · cases h
    · obtain ⟨b, hb, hq⟩ := List.mem_flatMap.mp h
      obtain ⟨below, rfl, n, hn, hc⟩ := ih b.2 (Expr.mem_parts_of_mem_branches hb) hq
      refine ⟨below ++ [b.1], by simp, n, ?_, hc⟩
      rw [Expr.at?_append_singleton (Expr.lookup_branches hb), hn]

theorem nodup_labels (style : Style) (e : Expr) (path : Expr.Path) :
    (style.draft path e).labels.Nodup := by
  induction e using Expr.parts_induction generalizing path with
  | step e ih =>
    -- Places below different steps, or below and at the root, have different ends.
    have hbelow {b : Expr.Step × Expr} {q : Expr.Path}
        (hq : q ∈ (style.draft (b.1 :: path) b.2).labels) : ∃ below, q = below ++ (b.1 :: path) := by
      obtain ⟨below, hq, -⟩ := mem_labels hq
      exact ⟨below, hq⟩
    rw [labels_draft, List.nodup_append]
    refine ⟨?_, ?_, ?_⟩
    · split <;> simp
    · rw [List.nodup_flatMap]
      refine ⟨fun b hb => ih b.2 (Expr.mem_parts_of_mem_branches hb) _, ?_⟩
      have hsteps := List.pairwise_map.mp e.nodup_branches
      refine hsteps.imp ?_
      intro a b hab q ha hb
      obtain ⟨u, hu⟩ := hbelow ha
      obtain ⟨v, hv⟩ := hbelow hb
      have := List.append_inj_right' (hu.symm.trans hv) rfl
      exact hab (List.cons.inj this).1
    · intro p hp q hq he
      subst he
      split at hp
      · obtain ⟨b, -, hb⟩ := List.mem_flatMap.mp hq
        obtain ⟨below, hb⟩ := hbelow hb
        have hlength := congrArg List.length (hb.symm.trans (List.mem_singleton.mp hp))
        simp at hlength
        omega
      · cases hp

end Style

end Legible
