import Legible.Proofs.TypeText
import Legible.Type.Parser

/-!
# What reading a type returns

Every type that is read from a text is well formed: its names are words of name characters, and none
of them spells a type of another sort.
-/

namespace Legible.Ty

/-- A nonempty run of name characters that does not begin like a number. -/
def IsTypeName (n : String) : Prop :=
  (∀ c ∈ n.toList, isNameChar c = true) ∧ ∃ c cs, n.toList = c :: cs ∧ isNameStart c = true

inductive WellFormed : Ty → Prop where
  | keyword (k : Keyword) : WellFormed (.keyword k)
  | nullable {t : Ty} (h : WellFormed t) (ht : ∀ u, t ≠ .nullable u) : WellFormed (.nullable t)
  | named {name : String} {arguments : List Ty} (hn : IsTypeName name)
      (hk : arguments = [] → Keyword.ofText? name = none) (hf : arguments ≠ [] → name ≠ "Func")
      (ha : ∀ t ∈ arguments, WellFormed t) : WellFormed (.named name arguments)
  | function {parameters : List Ty} {result : Ty} (hp : ∀ t ∈ parameters, WellFormed t)
      (hr : WellFormed result) : WellFormed (.function parameters result)

theorem WellFormed.asNullable {t : Ty} (h : t.WellFormed) : t.asNullable.WellFormed := by
  unfold Ty.asNullable
  split
  · exact h
  · rename_i ht
    exact .nullable h ht

theorem wellFormed_ofName {name : String} {arguments : List Ty} (hn : IsTypeName name)
    (ha : ∀ t ∈ arguments, t.WellFormed) : (ofName name arguments).WellFormed := by
  unfold ofName
  split
  · rename_i hlast
    split
    · exact .keyword _
    · rename_i hk
      exact .named hn (fun _ => hk) (fun h => (h rfl).elim) nofun
  · rename_i result hlast
    split
    · exact .function (fun t ht => ha t (List.dropLast_subset arguments ht))
        (ha result (List.mem_of_getLast? hlast))
    · rename_i hf
      refine .named hn ?_ (fun _ => hf) ha
      rintro rfl
      cases hlast

/-! ## Tokens -/

theorem closeName_names {read : List Char} {rest tokens : List Token}
    (hread : ∀ c ∈ read, isNameChar c = true) (hrest : ∀ n, .name n ∈ rest → IsTypeName n)
    (h : closeName read rest = some tokens) : ∀ n, .name n ∈ tokens → IsTypeName n := by
  unfold closeName at h
  split at h
  · cases h
    exact hrest
  · rename_i c cs hc
    split at h
    · rename_i hstart
      cases h
      intro n hn
      rcases List.mem_cons.mp hn with hn | hn
      · cases hn
        refine ⟨fun d hd => hread d ?_, c, cs, String.toList_ofList, hstart⟩
        rw [String.toList_ofList, ← hc] at hd
        exact List.mem_reverse.mp hd
      · exact hrest n hn
    · cases h

theorem tokensFrom_names {cs read : List Char} {tokens : List Token}
    (hread : ∀ c ∈ read, isNameChar c = true) (h : tokensFrom read cs = some tokens) :
    ∀ n, .name n ∈ tokens → IsTypeName n := by
  have hnil : ∀ c ∈ ([] : List Char), isNameChar c = true := List.forall_mem_nil _
  induction cs generalizing read tokens with
  | nil =>
    refine closeName_names hread ?_ h
    intro n hn
    cases hn
  | cons c cs ih =>
    rw [tokensFrom] at h
    split at h
    · rename_i hc
      refine ih ?_ h
      intro d hd
      rcases List.mem_cons.mp hd with rfl | hd
      · exact hc
      · exact hread d hd
    · split at h
      · obtain ⟨rest, hrest, h⟩ := Option.bind_eq_some_iff.mp h
        exact closeName_names hread (ih hnil hrest) h
      · split at h
        · rename_i m hm
          obtain ⟨rest, hrest, h⟩ := Option.bind_eq_some_iff.mp h
          refine closeName_names hread ?_ h
          intro n hn
          rcases List.mem_cons.mp hn with rfl | hn
          · unfold mark? at hm
            split at hm
            · cases hm
            · split at hm
              · cases hm
              · split at hm
                · cases hm
                · split at hm <;> cases hm
          · exact ih hnil hrest n hn
        · cases h

/-! ## The stack of open argument lists -/

def State.Sound : State → Prop
  | .start => True
  | .name n => IsTypeName n
  | .type t => t.WellFormed
  | .marked t => t.WellFormed

structure Frame.Sound (f : Frame) : Prop where
  name : IsTypeName f.name
  arguments : ∀ t ∈ f.arguments, t.WellFormed

theorem State.Sound.type? {state : State} (h : state.Sound) {t : Ty} (ht : state.type? = some t) :
    t.WellFormed := by
  cases state with
  | start => cases ht
  | name n =>
    cases ht
    exact wellFormed_ofName h nofun
  | type u =>
    cases ht
    exact h
  | marked u =>
    cases ht
    exact h

theorem Frame.Sound.snoc {f : Frame} (h : f.Sound) {t : Ty} (ht : t.WellFormed) :
    ∀ u ∈ f.arguments ++ [t], u.WellFormed := by
  intro u hu
  rcases List.mem_append.mp hu with hu | hu
  · exact h.arguments u hu
  · rw [List.mem_singleton.mp hu]
    exact ht

theorem step_sound {stack stack' : List Frame} {state state' : State} {token : Token}
    (hstack : ∀ f ∈ stack, f.Sound) (hstate : state.Sound)
    (htoken : ∀ n, token = .name n → IsTypeName n)
    (h : step stack state token = some (stack', state')) :
    (∀ f ∈ stack', f.Sound) ∧ state'.Sound := by
  cases token with
  | name n =>
    cases state with
    | start =>
      cases h
      exact ⟨hstack, htoken n rfl⟩
    | name _ => cases h
    | type _ => cases h
    | marked _ => cases h
  | opening =>
    cases state with
    | name n =>
      cases h
      exact ⟨List.forall_mem_cons.mpr ⟨⟨hstate, nofun⟩, hstack⟩, trivial⟩
    | start => cases h
    | type _ => cases h
    | marked _ => cases h
  | question =>
    simp only [step] at h
    split at h
    · obtain ⟨t, ht, hnext⟩ := Option.map_eq_some_iff.mp h
      cases hnext
      exact ⟨hstack, (hstate.type? ht).asNullable⟩
    · cases h
  | comma =>
    simp only [step] at h
    split at h
    · rename_i t f rest ht
      cases h
      obtain ⟨hf, hrest⟩ := List.forall_mem_cons.mp hstack
      have hargs := hf.snoc (hstate.type? ht)
      exact ⟨List.forall_mem_cons.mpr ⟨⟨hf.name, hargs⟩, hrest⟩, trivial⟩
    · cases h
  | closing =>
    simp only [step] at h
    split at h
    · rename_i t f rest ht
      cases h
      obtain ⟨hf, hrest⟩ := List.forall_mem_cons.mp hstack
      exact ⟨hrest, wellFormed_ofName hf.name (hf.snoc (hstate.type? ht))⟩
    · cases h

theorem run_sound {tokens : List Token} {stack : List Frame} {state : State} {t : Ty}
    (hstack : ∀ f ∈ stack, f.Sound) (hstate : state.Sound)
    (htokens : ∀ n, .name n ∈ tokens → IsTypeName n) (h : run stack state tokens = some t) :
    t.WellFormed := by
  induction tokens generalizing stack state with
  | nil =>
    rw [run] at h
    split at h
    · exact hstate.type? h
    · cases h
  | cons token rest ih =>
    rw [run] at h
    split at h
    · rename_i stack' state' hstep
      have htoken : ∀ n, token = .name n → IsTypeName n := by
        rintro n rfl
        exact htokens n List.mem_cons_self
      obtain ⟨hstack', hstate'⟩ := step_sound hstack hstate htoken hstep
      exact ih hstack' hstate' (fun n hn => htokens n (List.mem_cons_of_mem token hn)) h
    · cases h

theorem wellFormed_of_parse? {s : String} {t : Ty} (h : parse? s = some t) : t.WellFormed := by
  obtain ⟨tokens, htokens, hrun⟩ := Option.bind_eq_some_iff.mp h
  have hstart : State.start.Sound := trivial
  have hnames := tokensFrom_names (List.forall_mem_nil _) htokens
  exact run_sound (List.forall_mem_nil _) hstart hnames hrun

theorem WellFormed.isTypeName {t : Ty} (h : t.WellFormed) : ∀ n ∈ t.names, IsTypeName n := by
  induction h with
  | keyword k => exact nofun
  | nullable _ _ ih => exact ih
  | named hn hk hf ha ih =>
    rw [names, namesOfAll_eq, List.forall_mem_cons]
    refine ⟨hn, fun n hn => ?_⟩
    obtain ⟨t, ht, hn⟩ := List.mem_flatMap.mp hn
    exact ih t ht n hn
  | function hp hr ihp ihr =>
    rw [names, namesOfAll_eq, List.forall_mem_append]
    refine ⟨fun n hn => ?_, ihr⟩
    obtain ⟨t, ht, hn⟩ := List.mem_flatMap.mp hn
    exact ihp t ht n hn

/-- A well-formed type is spelled with name characters and marks. -/
theorem WellFormed.text_of_spelling {Q R : List Char → Prop} (h : Spelling Q R)
    (hq : ∀ s : List Char, (∀ c ∈ s, isNameChar c = true) → Q s) {t : Ty} (ht : t.WellFormed) :
    Q t.text.toList := by
  refine h.text ?_ (hq _ (by decide)) fun n hn => hq _ (ht.isTypeName n hn).1
  intro k
  apply hq
  cases k <;> decide

end Legible.Ty
