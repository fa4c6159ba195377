import Legible.Command.Run
import Legible.Proofs.Faults
import Legible.Proofs.IndentedJson

/-!
# What a failing tree does to the others

The command that renders files ends early, with nothing printed, if its options or one of its files
cannot be used. Past that point each tree stands alone: what becomes of it is what rendering it by
itself gives, the trees that cannot be rendered are counted, and the others are printed all the
same. A list of outcomes that is printed as data reads back to these outcomes.
-/

namespace Legible.Command

/-- A tree that is rendered alone: its text and no fault, or its fault and no text. -/
def TreeOutcome.alone (style : Style) (file : String) (tree : Expr) : TreeOutcome :=
  match render style tree with
  | .ok text => ⟨file, some text, none⟩
  | .error fault => ⟨file, none, some fault.message⟩

def isFailure (style : Style) (tree : Expr) : Bool :=
  match render style tree with
  | .ok _ => false
  | .error _ => true

/-- What a tree is given on the output, under its name if there are several. -/
def printed (style : Style) (header : Bool) (file : String) (tree : Expr) : String :=
  match render style tree with
  | .ok text => (if header then "// " ++ file ++ "\n" else "") ++ text ++ "\n"
  | .error _ => ""

def complaint (style : Style) (file : String) (tree : Expr) : String :=
  match render style tree with
  | .ok _ => ""
  | .error fault => "error: " ++ (file ++ ": " ++ fault.message) ++ "\n"

def entry (style : Style) (file : String) (tree : Expr) : Json :=
  match render style tree with
  | .ok text => .object [("file", .string file), ("rendered", .string text)]
  | .error fault => .object [("file", .string file), ("error", .string fault.message)]

def verdict (failed total : Nat) : String :=
  if failed = 0 then ""
  else
    "error: " ++ (toString failed ++ " of " ++ toString total ++ " trees failed to render") ++ "\n"

/-! ## One tree -/

theorem isRecoverable_of_render_error {style : Style} (hv : style.validate = .ok ()) {tree : Expr}
    {fault : Error} (h : render style tree = .error fault) : fault.isRecoverable = true := by
  rw [render_eq hv, orFault_eq_error_iff] at h
  simp [Error.isRecoverable, Style.firstFault?_kind h]

theorem treeOutcome_render {style : Style} (hv : style.validate = .ok ()) (file : String)
    (tree : Expr) : treeOutcome file (render style tree) = .ok (.alone style file tree) := by
  unfold treeOutcome TreeOutcome.alone
  cases h : render style tree with
  | ok text => rfl
  | error fault => simp [recover, isRecoverable_of_render_error hv h]

variable (style : Style) (file : String) (tree : Expr)

theorem isSome_error_alone :
    (TreeOutcome.alone style file tree).error.isSome = isFailure style tree := by
  unfold TreeOutcome.alone isFailure
  cases render style tree <;> rfl

theorem streams_alone (header : Bool) :
    (TreeOutcome.alone style file tree).streams header =
      (printed style header file tree, complaint style file tree) := by
  unfold TreeOutcome.alone printed complaint
  cases render style tree <;> rfl

theorem encode_alone : (TreeOutcome.alone style file tree).encode = entry style file tree := by
  unfold TreeOutcome.alone entry
  cases render style tree <;> rfl

/-! ## All trees -/

variable {style}

theorem treeOutcomes_zip (hv : style.validate = .ok ()) (files : List String) (trees : List Expr) :
    treeOutcomes (files.zip (renderAll style trees)) =
      .ok (List.zipWith (TreeOutcome.alone style) files trees) := by
  induction files generalizing trees with
  | nil => rfl
  | cons file files ih =>
    cases trees with
    | nil => rfl
    | cons tree trees =>
      have hrest : treeOutcomes (files.zip (trees.map (render style))) = _ := ih trees
      simp only [renderAll, List.map_cons, List.zip_cons_cons, treeOutcomes,
        treeOutcome_render hv, hrest]
      rfl

theorem readTrees_eq_ok_iff (w : World) (files : List String) (trees : List Expr) :
    readTrees w files = .ok trees ↔
      List.Forall₂ (fun path tree => readTree w path = .ok tree) files trees := by
  induction files generalizing trees with
  | nil => simp [readTrees, eq_comm]
  | cons path files ih =>
    rw [readTrees]
    cases hpath : readTree w path with
    | error fault =>
      constructor
      · intro h
        cases h
      · intro h
        cases h with
        | cons hhead _ =>
          rw [hpath] at hhead
          cases hhead
    | ok tree =>
      cases hfiles : readTrees w files with
      | error fault =>
        constructor
        · intro h
          cases h
        · intro h
          cases h with
          | cons _ htail =>
            rw [← ih, hfiles] at htail
            cases htail
      | ok rest =>
        constructor
        · intro h
          cases h
          exact .cons hpath ((ih rest).mp hfiles)
        · intro h
          cases h with
          | cons hhead htail =>
            rw [hpath] at hhead
            rw [← ih, hfiles] at htail
            cases hhead
            cases htail
            rfl

theorem exists_of_readTrees_error {w : World} {files : List String} {fault : Fault}
    (h : readTrees w files = .error fault) : ∃ path ∈ files, readTree w path = .error fault := by
  induction files with
  | nil => cases h
  | cons path files ih =>
    rw [readTrees] at h
    cases hpath : readTree w path with
    | error e =>
      rw [hpath] at h
      cases h
      exact ⟨path, List.mem_cons_self, hpath⟩
    | ok tree =>
      rw [hpath] at h
      cases hfiles : readTrees w files with
      | error e =>
        rw [hfiles] at h
        cases h
        obtain ⟨other, hother, hfault⟩ := ih hfiles
        exact ⟨other, List.mem_cons_of_mem path hother, hfault⟩
      | ok rest =>
        rw [hfiles] at h
        cases h

theorem readTree_fault {w : World} {path : String} {fault : Fault}
    (h : readTree w path = .error fault) :
    (∃ cause, fault = .unreadable path cause) ∨ ∃ cause, fault = .notATree path cause := by
  unfold readTree at h
  split at h
  · cases h
    exact .inl ⟨_, rfl⟩
  · split at h
    · cases h
    · cases h
      exact .inr ⟨_, rfl⟩

/-- A style, and a usable one, or a fault of the library, or a layer that asks for too much. -/
inductive Resolves : Except Fault Style → Prop where
  | usable {style : Style} (h : style.validate = .ok ()) : Resolves (.ok style)
  | refused (fault : Error) : Resolves (.error (.library fault))
  | oversize (size : Oversize) : Resolves (.error (.oversize size))

theorem overridden_resolves (overrides : Layer) (style : Style) :
    Resolves (overridden overrides style) := by
  unfold overridden
  cases overrides.apply style with
  | error size => exact .oversize size
  | ok result =>
    change Resolves (result.validate.mapError Fault.library >>= fun _ => pure result)
    cases hresult : result.validate with
    | error fault => exact .refused fault
    | ok _ => exact .usable hresult

theorem resolveStyle_resolves (w : World) (config : Option String) (overrides : Layer) :
    Resolves (resolveStyle w config overrides) := by
  unfold resolveStyle loadConfig
  cases Config.load w.wording.notALayer w.tree w.here config none with
  | error fault =>
    cases fault with
    | refused fault => exact .refused fault
    | oversize size => exact .oversize size
  | ok layer =>
    cases layer with
    | none => exact overridden_resolves overrides {}
    | some layer =>
      change Resolves ((layer.apply {}).mapError Fault.oversize >>= overridden overrides)
      cases layer.apply {} with
      | error size => exact .oversize size
      | ok style => exact overridden_resolves overrides style

theorem validate_of_resolveStyle {w : World} {config : Option String} {overrides : Layer}
    (h : resolveStyle w config overrides = .ok style) : style.validate = .ok () := by
  have hresolves := resolveStyle_resolves w config overrides
  rw [h] at hresolves
  cases hresolves with
  | usable hvalid => exact hvalid

/-! ## The command -/

variable {w : World} {config : Option String} {files : List String} {overrides : Layer}

theorem renderFiles_of_trees {trees : List Expr}
    (hs : resolveStyle w config overrides = .ok style) (h : readTrees w files = .ok trees) :
    renderFiles w config files overrides =
      .ok (List.zipWith (TreeOutcome.alone style) files trees) := by
  rw [← treeOutcomes_zip (validate_of_resolveStyle hs)]
  unfold renderFiles
  rw [hs, h]
  rfl

/-- All that can come of the files: the style is refused, or one of them is, or every tree stands
alone. -/
theorem renderFiles_cases (w : World) (config : Option String) (files : List String)
    (overrides : Layer) :
    (∃ fault, resolveStyle w config overrides = .error fault ∧
      renderFiles w config files overrides = .error fault) ∨
    (∃ path ∈ files, ∃ fault, readTree w path = .error fault ∧
      renderFiles w config files overrides = .error fault) ∨
    ∃ style trees, resolveStyle w config overrides = .ok style ∧
      List.Forall₂ (fun path tree => readTree w path = .ok tree) files trees ∧
      renderFiles w config files overrides =
        .ok (List.zipWith (TreeOutcome.alone style) files trees) := by
  cases hs : resolveStyle w config overrides with
  | error fault =>
    refine .inl ⟨fault, rfl, ?_⟩
    unfold renderFiles
    rw [hs]
    rfl
  | ok style =>
    cases ht : readTrees w files with
    | error fault =>
      obtain ⟨path, hpath, hfault⟩ := exists_of_readTrees_error ht
      refine .inr (.inl ⟨path, hpath, fault, hfault, ?_⟩)
      unfold renderFiles
      rw [hs, ht]
      rfl
    | ok trees =>
      exact .inr (.inr ⟨style, trees, rfl, (readTrees_eq_ok_iff w files trees).mp ht,
        renderFiles_of_trees hs ht⟩)

theorem renderFiles_ne_notRendered (path : String) (fault : Error) :
    renderFiles w config files overrides ≠ .error (.notRendered path fault) := by
  intro h
  rcases renderFiles_cases w config files overrides with
    ⟨e, hstyle, he⟩ | ⟨other, -, e, hother, he⟩ | ⟨style, trees, -, -, hok⟩
  · rw [he] at h
    cases h
    have hresolves := resolveStyle_resolves w config overrides
    rw [hstyle] at hresolves
    cases hresolves
  · rw [he] at h
    cases h
    rcases readTree_fault hother with ⟨cause, hcause⟩ | ⟨cause, hcause⟩ <;> cases hcause
  · rw [hok] at h
    cases h

theorem resolveStyle_of_renderFiles {size : Oversize}
    (h : renderFiles w config files overrides = .error (.oversize size)) :
    resolveStyle w config overrides = .error (.oversize size) := by
  rcases renderFiles_cases w config files overrides with
    ⟨e, hstyle, he⟩ | ⟨other, -, e, hother, he⟩ | ⟨style, trees, -, -, hok⟩
  · rw [he] at h
    cases h
    exact hstyle
  · rw [he] at h
    cases h
    rcases readTree_fault hother with ⟨cause, hcause⟩ | ⟨cause, hcause⟩ <;> cases hcause
  · rw [hok] at h
    cases h

/-- A refused style or file is never made up for. -/
theorem exists_renderFiles_eq_error
    (h : (∃ fault, resolveStyle w config overrides = .error fault) ∨
      ∃ path ∈ files, ∃ fault, readTree w path = .error fault) :
    ∃ fault, renderFiles w config files overrides = .error fault := by
  rcases renderFiles_cases w config files overrides with
    ⟨e, -, he⟩ | ⟨other, -, e, -, he⟩ | ⟨style, trees, hs, htrees, -⟩
  · exact ⟨e, he⟩
  · exact ⟨e, he⟩
  · exfalso
    rcases h with ⟨fault, hfault⟩ | ⟨path, hpath, fault, hfault⟩
    · rw [hs] at hfault
      cases hfault
    · obtain ⟨i, hi, rfl⟩ := List.getElem_of_mem hpath
      have htree := htrees.get hi (htrees.length_eq ▸ hi)
      simp only [List.get_eq_getElem] at htree
      rw [hfault] at htree
      cases htree

theorem showOutcomes_zipWith (style : Style) (files : List String) (trees : List Expr)
    (hlength : files.length = trees.length) (format : OutputFormat) :
    showOutcomes format (List.zipWith (TreeOutcome.alone style) files trees) =
      match format with
      | .text =>
        (String.join (List.zipWith (printed style (decide (1 < files.length))) files trees),
          String.join (List.zipWith (complaint style) files trees))
      | .json => ((Json.array (List.zipWith (entry style) files trees)).indented ++ "\n", "") := by
  cases format with
  | json => simp only [showOutcomes, List.map_zipWith, encode_alone]
  | text =>
    simp only [showOutcomes, List.map_zipWith, streams_alone, List.length_zipWith, ← hlength,
      Nat.min_self]

theorem countP_alone (style : Style) {files : List String} {trees : List Expr}
    (hlength : files.length = trees.length) :
    ((List.zipWith (TreeOutcome.alone style) files trees).filter fun o => o.error.isSome).length =
      trees.countP (isFailure style) := by
  induction files generalizing trees with
  | nil =>
    cases trees with
    | nil => rfl
    | cons tree trees => cases hlength
  | cons file files ih =>
    cases trees with
    | nil => cases hlength
    | cons tree trees =>
      have hrest := ih (Nat.succ.inj hlength)
      rw [← List.countP_eq_length_filter] at hrest ⊢
      rw [List.zipWith_cons_cons, List.countP_cons, List.countP_cons, hrest, isSome_error_alone]

theorem countP_isFailure_eq_zero_iff (style : Style) (trees : List Expr) :
    trees.countP (isFailure style) = 0 ↔ ∀ tree ∈ trees, ∃ text, render style tree = .ok text := by
  rw [List.countP_eq_zero]
  refine forall₂_congr fun tree _ => ?_
  unfold isFailure
  cases render style tree <;> simp

/-- The command once every tree is read, whatever each of them gives. -/
theorem runRender_of_trees {trees : List Expr} (hs : resolveStyle w config overrides = .ok style)
    (h : readTrees w files = .ok trees) (hlength : files.length = trees.length)
    (format : OutputFormat) :
    runRender w config files format overrides =
      let streams := showOutcomes format (List.zipWith (TreeOutcome.alone style) files trees)
      let failed := trees.countP (isFailure style)
      ⟨if failed = 0 then 0 else 1, streams.1, streams.2 ++ verdict failed files.length,
        w.tree⟩ := by
  unfold runRender
  rw [renderFiles_of_trees hs h]
  simp only [countP_alone style hlength, List.length_zipWith, ← hlength, Nat.min_self, verdict]
  split
  · simp
  · rfl

theorem tree_fail (w : World) (stdout stderr : String) (fault : Fault) :
    (fail w stdout stderr fault).tree = w.tree := by
  cases fault <;> rfl

theorem tree_runRender (w : World) (config : Option String) (files : List String)
    (format : OutputFormat) (overrides : Layer) :
    (runRender w config files format overrides).tree = w.tree := by
  unfold runRender
  split
  · exact tree_fail w "" "" _
  · dsimp only
    split
    · rfl
    · exact tree_fail w _ _ _

theorem fail_refused (w : World) (fault : Fault) :
    (fail w "" "" fault).exit ≠ 0 ∧ (fail w "" "" fault).stdout = "" ∧
      ((∀ size, fault ≠ .oversize size) → (fail w "" "" fault).exit = 1) := by
  cases fault with
  | oversize size =>
    refine ⟨by simp [fail], rfl, fun h => ?_⟩
    exact (h size rfl).elim
  | _ => exact ⟨Nat.one_ne_zero, rfl, fun _ => rfl⟩

/-- An outcome can be told from what it is written as. -/
theorem encode_injective {o p : TreeOutcome} (h : o.encode = p.encode) : o = p := by
  obtain ⟨file, rendered, error⟩ := o
  obtain ⟨file', rendered', error'⟩ := p
  cases rendered <;> cases error <;> cases rendered' <;> cases error' <;>
    simp_all [TreeOutcome.encode, Layer.encodeOption]

theorem isTextual_entry (style : Style) (file : String) (tree : Expr) :
    Json.IsTextual 1 (entry style file tree) := by
  unfold entry
  cases render style tree with
  | ok text =>
    refine .object (List.forall_mem_cons.mpr ⟨.string file, ?_⟩)
    exact List.forall_mem_singleton.mpr (.string text)
  | error fault =>
    refine .object (List.forall_mem_cons.mpr ⟨.string file, ?_⟩)
    exact List.forall_mem_singleton.mpr (.string fault.message)

theorem parse?_entries (style : Style) (files : List String) (trees : List Expr) :
    Json.parse? ((Json.array (List.zipWith (entry style) files trees)).indented ++ "\n") =
      some (.array (List.zipWith (entry style) files trees)) := by
  refine Json.IsTextual.parse?_indented (n := 2) (.array fun j hj => ?_) (by decide)
  obtain ⟨i, hi, rfl⟩ := List.getElem_of_mem hj
  rw [List.getElem_zipWith]
  exact isTextual_entry style _ _

/-- The list that was printed is read back to the outcomes, and to no others. -/
theorem parse?_entries_iff (style : Style) (files : List String) (trees : List Expr)
    (os : List TreeOutcome) :
    Json.parse? ((Json.array (List.zipWith (entry style) files trees)).indented ++ "\n") =
        some (.array (os.map TreeOutcome.encode)) ↔
      os = List.zipWith (TreeOutcome.alone style) files trees := by
  have hentries : List.zipWith (entry style) files trees =
      (List.zipWith (TreeOutcome.alone style) files trees).map TreeOutcome.encode := by
    simp only [List.map_zipWith, encode_alone]
  rw [parse?_entries, hentries, Option.some.injEq, Json.array.injEq, eq_comm]
  exact (List.map_injective_iff.mpr fun _ _ => encode_injective).eq_iff

theorem render_command_isolates_failures (w : World) (arguments : List String)
    (config : Option String) (files : List String) (format : OutputFormat) (overrides : Layer) :
    let outcome := runAction w arguments config (.render files format overrides)
    outcome.tree = w.tree ∧
    (∀ path fault, renderFiles w config files overrides ≠ .error (.notRendered path fault)) ∧
    ((∃ fault, resolveStyle w config overrides = .error fault) ∨
        (∃ path ∈ files, ∃ fault, readTree w path = .error fault) →
      outcome.exit ≠ 0 ∧ outcome.stdout = "" ∧
        ((∀ size, resolveStyle w config overrides ≠ .error (.oversize size)) →
          outcome.exit = 1)) ∧
    ∀ style trees, resolveStyle w config overrides = .ok style →
      List.Forall₂ (fun path tree => readTree w path = .ok tree) files trees →
      renderFiles w config files overrides =
          .ok (List.zipWith (TreeOutcome.alone style) files trees) ∧
        (outcome.exit = 0 ↔ ∀ tree ∈ trees, ∃ text, render style tree = .ok text) ∧
        (outcome.exit ≠ 0 → outcome.exit = 1) ∧
        match format with
        | .text =>
          outcome.stdout =
              String.join (List.zipWith (printed style (decide (1 < files.length))) files trees) ∧
            outcome.stderr = String.join (List.zipWith (complaint style) files trees) ++
              verdict (trees.countP (isFailure style)) files.length
        | .json =>
          outcome.stdout = (Json.array (List.zipWith (entry style) files trees)).indented ++ "\n" ∧
            (∀ os : List TreeOutcome,
              Json.parse? outcome.stdout = some (.array (os.map TreeOutcome.encode)) ↔
                os = List.zipWith (TreeOutcome.alone style) files trees) ∧
            outcome.stderr = verdict (trees.countP (isFailure style)) files.length := by
  intro outcome
  refine ⟨tree_runRender w config files format overrides, renderFiles_ne_notRendered, ?_, ?_⟩
  · intro h
    obtain ⟨fault, hfault⟩ := exists_renderFiles_eq_error h
    have houtcome : outcome = fail w "" "" fault := by
      simp only [outcome, runAction, runRender, hfault]
    rw [houtcome]
    obtain ⟨hexit, hstdout, hone⟩ := fail_refused w fault
    refine ⟨hexit, hstdout, fun hfits => hone fun size hsize => ?_⟩
    subst hsize
    exact hfits size (resolveStyle_of_renderFiles hfault)
  · intro style trees hs htrees
    have hlength := htrees.length_eq
    have hread := (readTrees_eq_ok_iff w files trees).mpr htrees
    have houtcome : outcome = _ := runRender_of_trees hs hread hlength format
    refine ⟨renderFiles_of_trees hs hread, ?_, ?_, ?_⟩
    · rw [houtcome, ← countP_isFailure_eq_zero_iff]
      dsimp only
      split
      · rename_i hnone
        exact iff_of_true rfl hnone
      · rename_i hsome
        exact iff_of_false Nat.one_ne_zero hsome
    · rw [houtcome]
      dsimp only
      split <;> simp
    · rw [houtcome, showOutcomes_zipWith style files trees hlength format]
      cases format with
      | text => exact ⟨rfl, rfl⟩
      | json =>
        exact ⟨rfl, fun os => parse?_entries_iff style files trees os, String.empty_append⟩

theorem readTree_of_text {w : World} {path s : String} {l : Location} {j : Json} {tree : Expr}
    (hfile : w.tree.resolve w.here path = .ok (l, .file s.toUTF8)) (hjson : Json.parse? s = some j)
    (htree : Expr.decode j = .ok tree) : readTree w path = .ok tree := by
  have hutf8 : String.fromUTF8? s.toUTF8 = some s := by
    simp only [String.fromUTF8?, Option.dite_none_right_eq_some]
    exact ⟨s.isValidUTF8, rfl⟩
  have htext : w.tree.readText w.here path = .ok s := by
    rw [FileTree.readText, hfile]
    change FileTree.Entry.readText (.file s.toUTF8) = _
    rw [FileTree.Entry.readText, hutf8]
  simp only [readTree, htext, hjson, Option.map_some, htree]

/-- A null of a type that has none, before a tree that can be rendered. -/
theorem render_command_isolates_failures_mixed :
    let bad : String := "\x7b\"kind\":\"constant\",\"value\":\"null\",\"type\":\"int\"\x7d"
    let good : String := "\x7b\"kind\":\"parameter\",\"name\":\"x\",\"type\":\"int\"\x7d"
    let wording : Wording := ⟨fun _ _ => "", fun _ => "", fun _ => "", fun _ => "", fun _ => ""⟩
    let w : World := ⟨⟨[(["a"], .file bad.toUTF8), (["b"], .file good.toUTF8)]⟩, [], wording⟩
    let outcome (format : OutputFormat) := runAction w [] none (.render ["a", "b"] format {})
    let mismatch : String := "Type mismatch in Constant: expected nullable type, found int"
    ((outcome .text).exit = 1 ∧ (outcome .text).stdout = "// b\nx\n" ∧
      (outcome .text).stderr =
        "error: a: " ++ mismatch ++ "\n" ++ "error: 1 of 2 trees failed to render\n") ∧
    (outcome .json).exit = 1 ∧
      (outcome .json).stdout =
        "[\n  \x7b\n    \"file\": \"a\",\n    \"error\": \"" ++ mismatch ++
          "\"\n  \x7d,\n  \x7b\n    \"file\": \"b\",\n    \"rendered\": \"x\"\n  \x7d\n]\n" ∧
      Json.parse? (outcome .json).stdout = some (.array
        [.object [("file", .string "a"), ("error", .string mismatch)],
          .object [("file", .string "b"), ("rendered", .string "x")]]) ∧
      (outcome .json).stderr = "error: 1 of 2 trees failed to render\n" := by
  -- where the files lie does not depend on what is in them
  have hfiles (a b : Entry) (wording : Wording) :
      FileTree.resolve ⟨[(["a"], a), (["b"], b)]⟩ [] "a" = .ok (["a"], a) ∧
        FileTree.resolve ⟨[(["a"], a), (["b"], b)]⟩ [] "b" = .ok (["b"], b) ∧
        resolveStyle ⟨⟨[(["a"], a), (["b"], b)]⟩, [], wording⟩ none {} = .ok {} :=
    ⟨by cbv, by cbv, by cbv⟩
  have hparsed :
      Json.parse? "\x7b\"kind\":\"constant\",\"value\":\"null\",\"type\":\"int\"\x7d" = some
          (.object [("kind", .string "constant"), ("value", .string "null"),
            ("type", .string "int")]) ∧
        Json.parse? "\x7b\"kind\":\"parameter\",\"name\":\"x\",\"type\":\"int\"\x7d" = some
          (.object [("kind", .string "parameter"), ("name", .string "x"),
            ("type", .string "int")]) :=
    ⟨by cbv, by cbv⟩
  intro bad good wording w outcome mismatch
  obtain ⟨hbad, hgood, hstyle⟩ := hfiles (.file bad.toUTF8) (.file good.toUTF8) wording
  have hbad : readTree w "a" = .ok (.constant .null .int none) :=
    readTree_of_text hbad hparsed.1 rfl
  have hgood : readTree w "b" = .ok (.parameter ⟨"x", .int⟩) :=
    readTree_of_text hgood hparsed.2 rfl
  have hruns (format : OutputFormat) :=
    (render_command_isolates_failures w [] none ["a", "b"] format {}).2.2.2 {} _ hstyle
      (.cons hbad (.cons hgood .nil))
  have hexit (format : OutputFormat) : (outcome format).exit = 1 := by
    refine (hruns format).2.2.1 fun h => ?_
    obtain ⟨text, htext⟩ := (hruns format).2.1.mp h _ List.mem_cons_self
    cases htext
  obtain ⟨-, -, -, hstdout, hstderr⟩ := hruns .text
  obtain ⟨-, -, -, hlist, hread, hverdict⟩ := hruns .json
  refine ⟨⟨hexit .text, hstdout, hstderr⟩, hexit .json, hlist.trans ?_, (hread _).mpr rfl, hverdict⟩
  decide +kernel

end Legible.Command
