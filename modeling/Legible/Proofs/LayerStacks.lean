import Legible.Command.Run
import Legible.Proofs.LineBreaks
import Mathlib.Data.List.Perm.Basic

/-!
# Stacked configuration layers

Each option of a stack of layers is the one that the last layer to speak of it asked for. The three
settings on indentation count as one option. A layer that asks for more spaces than a text can hold
ends the program, whatever lies above it. Otherwise what a layer sets is usable or not by itself:
over any usable style it fails just as it fails over the default one.
-/

namespace Legible

namespace Layer

/-- The layers over a style, the first of them lowest. -/
def stack (layers : List Layer) (base : Style) : Except Oversize Style :=
  layers.foldlM (fun style layer => layer.apply style) base

theorem stack_cons (layer : Layer) (layers : List Layer) (base : Style) :
    stack (layer :: layers) base = layer.apply base >>= stack layers := rfl

theorem stack_concat (layers : List Layer) (layer : Layer) (base : Style) :
    stack (layers ++ [layer]) base = stack layers base >>= layer.apply := by
  rw [stack, List.foldlM_append]
  congr 1
  funext style
  exact bind_pure (layer.apply style)

/-- The result was set by some layer and by none above it, or by none at all. -/
def LastSets {α : Type} (set? : Layer → Option α) (layers : List Layer) (base result : α) : Prop :=
  (∃ below layer above, layers = below ++ layer :: above ∧ set? layer = some result ∧
    ∀ l ∈ above, set? l = none) ∨
  (∀ l ∈ layers, set? l = none) ∧ result = base

theorem LastSets.concat {α : Type} {set? : Layer → Option α} {layers : List Layer} {base result : α}
    (h : LastSets set? layers base result) (layer : Layer) :
    LastSets set? (layers ++ [layer]) base ((set? layer).getD result) := by
  cases hset : set? layer with
  | some v => exact .inl ⟨layers, layer, [], rfl, hset, List.forall_mem_nil _⟩
  | none =>
    have hlast : ∀ l ∈ [layer], set? l = none := List.forall_mem_singleton.mpr hset
    rcases h with ⟨below, l, above, rfl, hl, habove⟩ | ⟨hnone, hbase⟩
    · refine .inl ⟨below, l, above ++ [layer], by simp, hl, ?_⟩
      exact List.forall_mem_append.mpr ⟨habove, hlast⟩
    · exact .inr ⟨List.forall_mem_append.mpr ⟨hnone, hlast⟩, hbase⟩

/-- An option that every layer overlays on its own. -/
theorem lastSets_stack {α : Type} {option : Style → α} {set? : Layer → Option α}
    (happly : ∀ layer style result, apply layer style = .ok result →
      option result = (set? layer).getD (option style))
    {layers : List Layer} {base result : Style} (h : stack layers base = .ok result) :
    LastSets set? layers (option base) (option result) := by
  induction layers using List.reverseRecOn generalizing result with
  | nil =>
    cases h
    exact .inr ⟨List.forall_mem_nil _, rfl⟩
  | append_singleton layers layer ih =>
    rw [stack_concat] at h
    cases hbelow : stack layers base with
    | error e =>
      rw [hbelow] at h
      cases h
    | ok style =>
      rw [hbelow] at h
      rw [happly layer style result h]
      exact (ih hbelow).concat layer

/-! ## Indentation -/

def SetsIndent (layer : Layer) : Prop :=
  layer.indentUnit.isSome ∨ layer.indentStyle.isSome ∨ layer.indentSize.isSome

instance (layer : Layer) : Decidable layer.SetsIndent := inferInstanceAs (Decidable (_ ∨ _))

/-- The unit as such, or else a tab where tabs are asked for, or else spaces, two of them unless the
layer has a number. -/
def askedUnit (layer : Layer) : String :=
  layer.indentUnit.getD
    (if layer.indentStyle = some .tabs then "\t"
    else String.ofList (List.replicate (layer.indentSize.getD 2) ' '))

def askedUnit? (layer : Layer) : Option String :=
  if layer.SetsIndent then some layer.askedUnit else none

/-- The layer asks for a number of spaces that no text can hold. -/
structure Oversized (layer : Layer) (size : Nat) : Prop where
  no_unit : layer.indentUnit = none
  no_tabs : layer.indentStyle ≠ some .tabs
  asked : layer.indentSize = some size
  too_many : 2 ^ 63 ≤ size

theorem spaces_eq (size : Nat) :
    spaces size = if 2 ^ 63 ≤ size then .error ⟨size⟩
      else .ok (String.ofList (List.replicate size ' ')) := by
  unfold spaces Text.maxBytes
  by_cases h : 2 ^ 63 ≤ size
  · rw [if_pos h, if_neg (by omega)]
  · rw [if_neg h, if_pos (by omega)]

theorem unit?_of_oversized {layer : Layer} {size : Nat} (h : layer.Oversized size) :
    layer.unit? = .error ⟨size⟩ := by
  obtain ⟨hunit, htabs, hsize, hmany⟩ := h
  have hspaces : (spaces size).map some = .error ⟨size⟩ := by
    rw [spaces_eq, if_pos hmany]
    rfl
  unfold unit?
  rw [hunit, hsize]
  cases hstyle : layer.indentStyle with
  | none => exact hspaces
  | some style =>
    cases style with
    | spaces => exact hspaces
    | tabs => exact (htabs hstyle).elim

theorem unit?_of_fitting {layer : Layer} (h : ∀ size, ¬layer.Oversized size) :
    layer.unit? = .ok layer.askedUnit? := by
  obtain ⟨schema, names, arguments, captured, unit, style, size, width⟩ := layer
  cases unit with
  | some unit => rfl
  | none =>
    cases size with
    | none =>
      cases style with
      | none => rfl
      | some style => cases style <;> rfl
    | some size =>
      by_cases htabs : style = some .tabs
      · subst htabs
        rfl
      · have hspaces : (spaces size).map some =
            .ok (some (String.ofList (List.replicate size ' '))) := by
          rw [spaces_eq, if_neg fun hmany => h size ⟨rfl, htabs, rfl, hmany⟩]
          rfl
        cases style with
        | none => exact hspaces
        | some style =>
          cases style with
          | spaces => exact hspaces
          | tabs => exact (htabs rfl).elim

theorem apply_of_oversized {layer : Layer} {size : Nat} (h : layer.Oversized size)
    (style : Style) : layer.apply style = .error ⟨size⟩ := by
  rw [apply, unit?_of_oversized h]
  rfl

theorem apply_of_fitting {layer : Layer} (h : ∀ size, ¬layer.Oversized size) (style : Style) :
    layer.apply style = .ok (layer.overlay layer.askedUnit? style) := by
  rw [apply, unit?_of_fitting h]
  rfl

theorem apply_eq_ok_iff {layer : Layer} {style result : Style} :
    layer.apply style = .ok result ↔
      (∀ size, ¬layer.Oversized size) ∧ result = layer.overlay layer.askedUnit? style := by
  constructor
  · intro h
    have hfits : ∀ size, ¬layer.Oversized size := by
      intro size hsize
      rw [apply_of_oversized hsize] at h
      cases h
    rw [apply_of_fitting hfits] at h
    exact ⟨hfits, (Except.ok.inj h).symm⟩
  · rintro ⟨hfits, rfl⟩
    exact apply_of_fitting hfits style

theorem apply_eq_error_iff {layer : Layer} {style : Style} {size : Nat} :
    layer.apply style = .error ⟨size⟩ ↔ layer.Oversized size := by
  constructor
  · intro h
    by_contra hsize
    by_cases hfits : ∀ n, ¬layer.Oversized n
    · rw [apply_of_fitting hfits] at h
      cases h
    · obtain ⟨n, hn⟩ := not_forall_not.mp hfits
      rw [apply_of_oversized hn] at h
      cases h
      exact hsize hn
  · intro h
    exact apply_of_oversized h style

theorem toStyle_eq_error_iff {layer : Layer} {size : Nat} :
    layer.toStyle = .error ⟨size⟩ ↔ layer.Oversized size := apply_eq_error_iff

/-- The first layer that asks for too much ends the program, and nothing else does. -/
theorem stack_eq_error_iff {layers : List Layer} {base : Style} {size : Nat} :
    stack layers base = .error ⟨size⟩ ↔
      ∃ below layer above, layers = below ++ layer :: above ∧ layer.Oversized size ∧
        ∀ l ∈ below, ∀ n, ¬l.Oversized n := by
  induction layers generalizing base with
  | nil =>
    constructor
    · intro h
      cases h
    · rintro ⟨below, layer, above, hlayers, -⟩
      simp at hlayers
  | cons first rest ih =>
    by_cases hfirst : ∃ n, first.Oversized n
    · obtain ⟨n, hn⟩ := hfirst
      rw [stack_cons, apply_of_oversized hn]
      constructor
      · intro h
        cases h
        exact ⟨[], first, rest, rfl, hn, List.forall_mem_nil _⟩
      · rintro ⟨below, layer, above, hlayers, hlayer, hbelow⟩
        cases below with
        | nil =>
          cases hlayers
          have hsame : some n = some size := hn.asked.symm.trans hlayer.asked
          cases hsame
          rfl
        | cons l below =>
          cases hlayers
          exact (hbelow first List.mem_cons_self n hn).elim
    · have hfits : ∀ n, ¬first.Oversized n := fun n hn => hfirst ⟨n, hn⟩
      rw [stack_cons, apply_of_fitting hfits]
      refine ih.trans ?_
      constructor
      · rintro ⟨below, layer, above, rfl, hlayer, hbelow⟩
        exact ⟨first :: below, layer, above, rfl, hlayer,
          List.forall_mem_cons.mpr ⟨hfits, hbelow⟩⟩
      · rintro ⟨below, layer, above, hlayers, hlayer, hbelow⟩
        cases below with
        | nil =>
          cases hlayers
          exact (hfits size hlayer).elim
        | cons l below =>
          cases hlayers
          exact ⟨below, layer, above, rfl, hlayer, (List.forall_mem_cons.mp hbelow).2⟩

theorem exists_stack_iff {layers : List Layer} {base : Style} :
    (∃ style, stack layers base = .ok style) ↔
      ∀ layer ∈ layers, ∀ size, ¬layer.Oversized size := by
  induction layers generalizing base with
  | nil => exact iff_of_true ⟨base, rfl⟩ (List.forall_mem_nil _)
  | cons first rest ih =>
    rw [stack_cons, List.forall_mem_cons]
    constructor
    · rintro ⟨style, h⟩
      cases hfirst : first.apply base with
      | error e =>
        rw [hfirst] at h
        cases h
      | ok below =>
        rw [hfirst] at h
        exact ⟨(apply_eq_ok_iff.mp hfirst).1, ih.mp ⟨style, h⟩⟩
    · rintro ⟨hfirst, hrest⟩
      rw [apply_of_fitting hfirst]
      exact ih.mpr hrest

structure Composes (layers : List Layer) (base style : Style) : Prop where
  explicitTypeNames :
    LastSets explicitTypeNames layers base.explicitTypeNames style.explicitTypeNames
  explicitTypeArguments :
    LastSets explicitTypeArguments layers base.explicitTypeArguments style.explicitTypeArguments
  showCaptured : LastSets showCaptured layers base.showCaptured style.showCaptured
  lineWidth : LastSets (fun layer => layer.lineWidth.map some) layers base.lineWidth style.lineWidth
  indentUnit : LastSets askedUnit? layers base.indentUnit style.indentUnit

theorem composes_stack {layers : List Layer} {base result : Style}
    (h : stack layers base = .ok result) : Composes layers base result := by
  have hoption {α : Type} {option : Style → α} {set? : Layer → Option α}
      (hset : ∀ layer style, option (overlay layer layer.askedUnit? style) =
        (set? layer).getD (option style)) :
      LastSets set? layers (option base) (option result) := by
    refine lastSets_stack (fun layer style result hlayer => ?_) h
    obtain ⟨-, rfl⟩ := apply_eq_ok_iff.mp hlayer
    exact hset layer style
  constructor
  · exact hoption fun _ _ => rfl
  · exact hoption fun _ _ => rfl
  · exact hoption fun _ _ => rfl
  · refine hoption fun layer style => ?_
    change layer.lineWidth.or style.lineWidth = _
    cases layer.lineWidth <;> rfl
  · exact hoption fun _ _ => rfl

/-! ## Validity -/

def UsableOver (layer : Layer) (base : Style) : Prop :=
  ∃ style, layer.apply base = .ok style ∧ style.validate = .ok ()

theorem validate_overlay {base : Style} (h : base.validate = .ok ()) (layer : Layer)
    (unit : Option String) :
    (layer.overlay unit base).validate = (layer.overlay unit {}).validate := by
  obtain ⟨hne, hblank, hwidth⟩ := (Style.validate_eq_ok_iff base).mp h
  unfold Style.validate overlay
  cases unit <;> cases layer.lineWidth <;> simp [hne, hblank, hwidth]

theorem validate_apply {base : Style} (h : base.validate = .ok ()) (layer : Layer) :
    (layer.apply base).map Style.validate = layer.toStyle.map Style.validate := by
  unfold toStyle apply
  cases layer.unit? with
  | error e => rfl
  | ok unit => exact congrArg Except.ok (validate_overlay h layer unit)

theorem usableOver_iff {layer : Layer} {base : Style} :
    layer.UsableOver base ↔ (layer.apply base).map Style.validate = .ok (.ok ()) := by
  unfold UsableOver
  cases layer.apply base with
  | error e => simp [Except.map]
  | ok style => simp [Except.map]

theorem usableOver_congr {base : Style} (h : base.validate = .ok ()) (layer : Layer) :
    layer.UsableOver base ↔ layer.UsableOver {} := by
  rw [usableOver_iff, usableOver_iff, validate_apply h]
  rfl

theorem validate_stack {base : Style} (h : base.validate = .ok ()) {layers : List Layer}
    (hlayers : ∀ layer ∈ layers, layer.UsableOver {}) :
    ∃ style, stack layers base = .ok style ∧ style.validate = .ok () := by
  induction layers generalizing base with
  | nil => exact ⟨base, rfl, h⟩
  | cons layer layers ih =>
    obtain ⟨hlayer, hlayers⟩ := List.forall_mem_cons.mp hlayers
    obtain ⟨style, hstyle, hvalid⟩ := (usableOver_congr h layer).mpr hlayer
    obtain ⟨result, hresult⟩ := ih hvalid hlayers
    rw [stack_cons, hstyle]
    exact ⟨result, hresult⟩

end Layer

namespace Config

variable {explain : Format → String → String}

theorem usable_eq_ok_iff {path : String} {layer read : Layer} :
    usable path read = .ok layer ↔ read = layer ∧ layer.UsableOver {} := by
  unfold usable
  cases hstyle : read.toStyle with
  | error size =>
    refine iff_of_false (by simp [Except.mapError, bind, Except.bind]) ?_
    rintro ⟨rfl, style, hok, -⟩
    cases hstyle.symm.trans hok
  | ok style =>
    simp only [Except.mapError, bind, Except.bind]
    cases hvalid : style.validate with
    | error fault =>
      refine iff_of_false (by simp [throw, throwThe, MonadExceptOf.throw]) ?_
      rintro ⟨rfl, result, hok, hresult⟩
      cases hstyle.symm.trans hok
      cases hvalid.symm.trans hresult
    | ok _ =>
      constructor
      · intro h
        cases h
        exact ⟨rfl, style, hstyle, hvalid⟩
      · rintro ⟨rfl, -⟩
        rfl

theorem usable_eq_oversize_iff {path : String} {read : Layer} {size : Nat} :
    usable path read = .error (.oversize ⟨size⟩) ↔ read.Oversized size := by
  rw [← Layer.toStyle_eq_error_iff]
  unfold usable
  cases read.toStyle with
  | error o => simp [Except.mapError, bind, Except.bind]
  | ok style =>
    simp only [Except.mapError, bind, Except.bind]
    cases style.validate <;> simp [throw, throwThe, MonadExceptOf.throw, pure, Except.pure]

theorem parse_of_layer {path content : String} {format : Format} {layer : Layer}
    (hformat : format? path = some format) (hread : format.readLayer? content = some layer) :
    parse explain path content = usable path layer := by
  simp only [parse, hformat, hread]

/-- A text without a layer is refused; otherwise all depends on the layer. -/
theorem parse_cases (explain : Format → String → String) (path content : String) :
    (∃ fault, parse explain path content = .error (.refused fault)) ∨
    ∃ format layer, format? path = some format ∧ format.readLayer? content = some layer ∧
      parse explain path content = usable path layer := by
  unfold parse
  cases hformat : format? path with
  | none => exact .inl ⟨_, rfl⟩
  | some format =>
    dsimp only
    cases hread : format.readLayer? content with
    | none => exact .inl ⟨_, rfl⟩
    | some layer => exact .inr ⟨format, layer, rfl, hread, rfl⟩

theorem parse_eq_iff {path content : String} {result : Except Fault Layer}
    (hresult : ∀ fault, result ≠ .error (.refused fault)) :
    parse explain path content = result ↔ ∃ format layer, format? path = some format ∧
      format.readLayer? content = some layer ∧ usable path layer = result := by
  constructor
  · rintro rfl
    rcases parse_cases explain path content with ⟨fault, hfault⟩ | ⟨format, layer, hf, hr, hp⟩
    · exact (hresult fault hfault).elim
    · exact ⟨format, layer, hf, hr, hp.symm⟩
  · rintro ⟨format, layer, hf, hr, rfl⟩
    exact parse_of_layer hf hr

theorem parse_eq_ok_iff {path content : String} {layer : Layer} :
    parse explain path content = .ok layer ↔ ∃ format, format? path = some format ∧
      format.readLayer? content = some layer ∧ layer.UsableOver {} := by
  rw [parse_eq_iff (by simp)]
  constructor
  · rintro ⟨format, read, hf, hr, husable⟩
    obtain ⟨rfl, h⟩ := usable_eq_ok_iff.mp husable
    exact ⟨format, hf, hr, h⟩
  · rintro ⟨format, hf, hr, h⟩
    exact ⟨format, layer, hf, hr, usable_eq_ok_iff.mpr ⟨rfl, h⟩⟩

theorem parse_eq_oversize_iff {path content : String} {size : Nat} :
    parse explain path content = .error (.oversize ⟨size⟩) ↔ ∃ format layer,
      format? path = some format ∧ format.readLayer? content = some layer ∧
        layer.Oversized size := by
  rw [parse_eq_iff (by simp)]
  simp only [usable_eq_oversize_iff]

theorem usable_of_loadEntry {path : String} {e : Entry} {layer : Layer}
    (h : loadEntry explain path e = .ok layer) : layer.UsableOver {} := by
  unfold loadEntry at h
  split at h
  · cases h
  · obtain ⟨-, -, -, husable⟩ := parse_eq_ok_iff.mp h
    exact husable

theorem usable_of_loadFile {tree : FileTree} {here : Location} {path : String} {layer : Layer}
    (h : loadFile explain tree here path = .ok layer) : layer.UsableOver {} := by
  unfold loadFile at h
  split at h
  · cases h
  · exact usable_of_loadEntry h

theorem usable_of_load {tree : FileTree} {here : Location} {explicit start : Option String}
    {layer : Layer} (h : load explain tree here explicit start = .ok (some layer)) :
    layer.UsableOver {} := by
  have hmap {path : String}
      (hpath : (loadFile explain tree here path).map some = .ok (some layer)) :
      layer.UsableOver {} := by
    cases hfile : loadFile explain tree here path with
    | error fault =>
      rw [hfile] at hpath
      cases hpath
    | ok read =>
      rw [hfile] at hpath
      cases hpath
      exact usable_of_loadFile hfile
  unfold load at h
  cases explicit with
  | some path =>
    dsimp only at h
    split at h
    · exact hmap h
    · cases h
  | none =>
    cases hfound : discover tree here (start.getD ".") with
    | error fault =>
      rw [hfound] at h
      cases h
    | ok found =>
      rw [hfound] at h
      cases found with
      | none => cases h
      | some l => exact hmap h

end Config

namespace Command

/-- Over a usable style the overrides fail as they fail over the default one. -/
theorem overridden_eq {style : Style} (hvalid : style.validate = .ok ()) (overrides : Layer) :
    overridden overrides style = (do
      let usual ← overrides.toStyle.mapError .oversize
      usual.validate.mapError .library
      (overrides.apply style).mapError .oversize) := by
  have hsame := Layer.validate_apply hvalid overrides
  unfold overridden
  cases happly : overrides.apply style with
  | error size =>
    rw [happly] at hsame
    cases husual : overrides.toStyle with
    | error size' =>
      rw [husual] at hsame
      cases hsame
      rfl
    | ok usual =>
      rw [husual] at hsame
      cases hsame
  | ok result =>
    rw [happly] at hsame
    cases husual : overrides.toStyle with
    | error size =>
      rw [husual] at hsame
      cases hsame
    | ok usual =>
      rw [husual] at hsame
      have hvalidate : result.validate = usual.validate := Except.ok.inj hsame
      change (do result.validate.mapError Fault.library; return result) =
        (do usual.validate.mapError Fault.library; Except.ok result)
      rw [hvalidate]
      rfl

theorem usable_of_loadConfig {w : World} {config : Option String} {layer : Layer}
    (h : loadConfig w config = .ok (some layer)) : layer.UsableOver {} := by
  unfold loadConfig at h
  cases hload : Config.load w.wording.notALayer w.tree w.here config none with
  | error fault =>
    rw [hload] at h
    cases h
  | ok found =>
    rw [hload] at h
    cases h
    exact Config.usable_of_load hload

/-- The style of a command is the default one below the file's layer below the overrides. The file
was checked when it was loaded, so that only the overrides are left to check. -/
theorem resolveStyle_eq (w : World) (config : Option String) (overrides : Layer) :
    resolveStyle w config overrides = (do
      let layer ← loadConfig w config
      let style ← overrides.toStyle.mapError .oversize
      style.validate.mapError .library
      (Layer.stack (layer.toList ++ [overrides]) {}).mapError .oversize) := by
  have hchecked {style : Style} {layers : List Layer} (hvalid : style.validate = .ok ())
      (hstack : Layer.stack layers {} = overrides.apply style) :
      overridden overrides style = (do
        let usual ← overrides.toStyle.mapError .oversize
        usual.validate.mapError .library
        (Layer.stack layers {}).mapError .oversize) := by
    rw [hstack, overridden_eq hvalid]
  unfold resolveStyle
  cases hload : loadConfig w config with
  | error fault => rfl
  | ok layer =>
    cases layer with
    | none => exact hchecked rfl (Layer.stack_concat [] overrides {})
    | some layer =>
      obtain ⟨style, hstyle, hvalid⟩ := usable_of_loadConfig hload
      have hbelow : Layer.stack [layer] {} = .ok style :=
        (Layer.stack_concat [] layer {}).trans hstyle
      have hstack : Layer.stack [layer, overrides] {} = overrides.apply style := by
        have hconcat := Layer.stack_concat [layer] overrides {}
        rw [hbelow] at hconcat
        exact hconcat
      change ((layer.apply {}).mapError Fault.oversize >>= overridden overrides) = _
      rw [hstyle]
      exact hchecked hvalid hstack

end Command

namespace Layer

theorem stack_composes_field_by_field (layers : List Layer) (base : Style) :
    (∀ size, stack layers base = .error ⟨size⟩ ↔
      ∃ below layer above, layers = below ++ layer :: above ∧ layer.Oversized size ∧
        ∀ l ∈ below, ∀ n, ¬l.Oversized n) ∧
    ((∀ layer ∈ layers, ∀ size, ¬layer.Oversized size) →
      ∃ style, stack layers base = .ok style ∧ Composes layers base style) ∧
    (base.validate = .ok () →
      (∀ layer : Layer,
        (layer.apply base).map Style.validate = layer.toStyle.map Style.validate) ∧
      ((∀ layer ∈ layers, layer.UsableOver {}) → ∀ reordered, reordered.Perm layers →
        ∃ style, stack reordered base = .ok style ∧ style.validate = .ok ()) ∧
      ∀ explain path content,
        (∀ layer, Config.parse explain path content = .ok layer ↔
          ∃ format, Config.format? path = some format ∧ format.readLayer? content = some layer ∧
            layer.UsableOver base) ∧
        ∀ size, Config.parse explain path content = .error (.oversize ⟨size⟩) ↔
          ∃ format layer, Config.format? path = some format ∧
            format.readLayer? content = some layer ∧ layer.Oversized size) ∧
    ∀ (w : Command.World) (config : Option String) (overrides : Layer),
      Command.resolveStyle w config overrides = (do
        let layer ← Command.loadConfig w config
        let style ← overrides.toStyle.mapError .oversize
        style.validate.mapError .library
        (stack (layer.toList ++ [overrides]) {}).mapError .oversize) := by
  refine ⟨fun _ => stack_eq_error_iff, ?_, ?_, Command.resolveStyle_eq⟩
  · intro hlayers
    obtain ⟨style, hstyle⟩ := exists_stack_iff.mpr hlayers
    exact ⟨style, hstyle, composes_stack hstyle⟩
  · intro hbase
    refine ⟨validate_apply hbase, ?_, ?_⟩
    · intro hlayers reordered hperm
      exact validate_stack hbase fun layer h => hlayers layer (hperm.mem_iff.mp h)
    · intro explain path content
      refine ⟨fun layer => ?_, fun size => Config.parse_eq_oversize_iff⟩
      simp only [usableOver_congr hbase]
      exact Config.parse_eq_ok_iff

/-- A number of spaces over tabs: of the lower layer only the width is left. -/
theorem stack_composes_sized_over_tabs :
    let tabs : Layer := { indentStyle := some .tabs, indentSize := some 8, lineWidth := some 100 }
    let sized : Layer := { indentSize := some 4 }
    (({} : Style).validate = .ok () ∧ ∀ layer ∈ [tabs, sized], layer.UsableOver {}) ∧
      (∃ style, stack [tabs, sized] {} = .ok style ∧ Composes [tabs, sized] {} style ∧
        style = { indentUnit := "    ", lineWidth := some 100 }) ∧
      ∃ style, stack [sized, tabs] {} = .ok style ∧ style.validate = .ok () := by
  intro tabs sized
  have hbase : ({} : Style).validate = .ok () := rfl
  have hlayers : ∀ layer ∈ [tabs, sized], layer.UsableOver {} := by
    refine List.forall_mem_cons.mpr ⟨⟨_, rfl, ?_⟩, List.forall_mem_singleton.mpr ⟨_, rfl, ?_⟩⟩
    · rw [Style.validate_eq_ok_iff]
      decide
    · rw [Style.validate_eq_ok_iff]
      decide
  have hfits : ∀ layer ∈ [tabs, sized], ∀ size, ¬layer.Oversized size := by
    intro layer hlayer
    obtain ⟨style, hstyle, -⟩ := hlayers layer hlayer
    exact (apply_eq_ok_iff.mp hstyle).1
  obtain ⟨-, hcomposes, hvalid, -⟩ := stack_composes_field_by_field [tabs, sized] {}
  obtain ⟨style, hstyle, hfields⟩ := hcomposes hfits
  obtain ⟨-, hperm, -⟩ := hvalid hbase
  refine ⟨⟨hbase, hlayers⟩, ⟨style, hstyle, hfields, ?_⟩, hperm hlayers _ (.swap tabs sized [])⟩
  exact (Except.ok.inj hstyle).symm

/-- Tabs over a huge number of spaces: the options are settled layer by layer, yet the program ends
at the lower one. -/
theorem tabs_over_oversized_layer :
    let huge : Layer := { indentSize := some 18446744073709551615 }
    let tabs : Layer := { indentStyle := some .tabs }
    Composes [huge, tabs] {} { indentUnit := "\t" } ∧
      ¬∃ style, stack [huge, tabs] {} = .ok style := by
  intro huge tabs
  constructor
  · refine ⟨.inr ⟨?_, rfl⟩, .inr ⟨?_, rfl⟩, .inr ⟨?_, rfl⟩, .inr ⟨?_, rfl⟩,
      .inl ⟨[huge], tabs, [], rfl, rfl, List.forall_mem_nil _⟩⟩
    all_goals exact List.forall_mem_cons.mpr ⟨rfl, List.forall_mem_singleton.mpr rfl⟩
  · intro h
    have hsize : huge.Oversized 18446744073709551615 := ⟨rfl, by decide, rfl, by decide⟩
    exact exists_stack_iff.mp h huge List.mem_cons_self _ hsize

end Layer

end Legible
