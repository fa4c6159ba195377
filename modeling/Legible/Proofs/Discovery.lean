import Legible.Config.File
import Mathlib.Data.String.Basic
import Mathlib.Tactic.ByContra

/-!
# The nearest configuration

The directories above a location are its suffixes. A search settles on the deepest of them that
holds a configuration file, and there on the preferred name; entries of these names that are
directories count for nothing. What is loaded then is what the path of that file leads to, from
whatever directory it is given.
-/

namespace Legible

/-! ## Paths as text -/

namespace FileTree

open String in
theorem splitOnAux_slash (s : String) (b i : Pos.Raw) (r : List String) :
    s.splitOnAux "/" b i 0 r = s.splitAux (· == '/') b i r := by
  have hget : Pos.Raw.get "/" 0 = '/' := by decide
  have hnext : Pos.Raw.next "/" 0 = ⟨1⟩ := by decide
  have hend : Pos.Raw.atEnd "/" ⟨1⟩ = true := by decide
  fun_induction s.splitAux (· == '/') b i r with
  | case1 b i r hatEnd => rw [splitOnAux, if_pos hatEnd]
  | case2 b i r hatEnd _ hslash next ih =>
    -- the separator is one byte, so stepping back over it leads to where it was found
    have hback : (Pos.Raw.next s i).unoffsetBy ⟨1⟩ = i := by
      have hsize : (Pos.Raw.get s i).utf8Size = 1 := by
        rw [beq_iff_eq.mp hslash]
        rfl
      rw [Pos.Raw.ext_iff]
      change i.byteIdx + (Pos.Raw.get s i).utf8Size - 1 = i.byteIdx
      omega
    rw [splitOnAux, if_neg hatEnd, hget, if_pos hslash]
    dsimp only
    rw [hnext, if_pos hend, hback]
    exact ih
  | case3 b i r hatEnd _ hslash ih =>
    have hstay : i.unoffsetBy 0 = i := rfl
    rw [splitOnAux, if_neg hatEnd, hget, if_neg hslash, hstay]
    exact ih

theorem splitOn_slash (s : String) : s.splitOn "/" = (s.toList.splitOn '/').map String.ofList := by
  rw [String.splitOn, if_neg (by decide), splitOnAux_slash]
  exact s.splitToList_of_valid _

structure IsName (name : String) : Prop where
  ne_empty : name ≠ ""
  ne_here : name ≠ "."
  ne_parent : name ≠ ".."
  slash_not_mem : '/' ∉ name.toList
  nul_not_mem : Char.ofNat 0 ∉ name.toList
  size_le : name.utf8ByteSize ≤ maxNameSize

/-- A tree as a file system holds it: entries have names, and lie in directories. -/
structure Proper (tree : FileTree) : Prop where
  isName : ∀ l e, tree.entry? l = some e → ∀ name ∈ l, IsName name
  parent : ∀ name l e, tree.entry? (name :: l) = some e → tree.entry? l = some .directory

instance (name : String) : Decidable (IsName name) :=
  decidable_of_iff
    (name ≠ "" ∧ name ≠ "." ∧ name ≠ ".." ∧ '/' ∉ name.toList ∧ Char.ofNat 0 ∉ name.toList ∧
      name.utf8ByteSize ≤ maxNameSize)
    ⟨fun ⟨h₁, h₂, h₃, h₄, h₅, h₆⟩ => ⟨h₁, h₂, h₃, h₄, h₅, h₆⟩,
      fun ⟨h₁, h₂, h₃, h₄, h₅, h₆⟩ => ⟨h₁, h₂, h₃, h₄, h₅, h₆⟩⟩

/-- Only the entries that are listed need to be looked at. -/
theorem proper_of_entries {tree : FileTree} (hnames : ∀ x ∈ tree.entries, ∀ name ∈ x.1, IsName name)
    (hparents : ∀ x ∈ tree.entries, tree.entry? x.1.tail = some .directory) : tree.Proper := by
  have hmem {name : String} {l : Location} {e : Entry} (h : tree.entry? (name :: l) = some e) :
      (name :: l, e) ∈ tree.entries := by
    obtain ⟨before, after, hentries, -⟩ := List.lookup_eq_some_iff.mp h
    rw [hentries]
    simp
  constructor
  · intro l e h
    cases l with
    | nil => exact nofun
    | cons name l => exact hnames _ (hmem h)
  · intro name l e h
    exact hparents _ (hmem h)

theorem toList_text (l : Location) :
    l.text.toList = '/' :: ['/'].intercalate (l.reverse.map String.toList) := by
  rw [Location.text, String.toList_append, String.toList_intercalate]
  rfl

theorem splitOn_text {l : Location} (hl : l ≠ []) (h : ∀ name ∈ l, '/' ∉ name.toList) :
    l.text.splitOn "/" = "" :: l.reverse := by
  have hsplit : (['/'].intercalate (l.reverse.map String.toList)).splitOn '/' =
      l.reverse.map String.toList := by
    apply List.splitOn_intercalate
    · intro cs hcs
      obtain ⟨name, hname, rfl⟩ := List.mem_map.mp hcs
      exact h name (List.mem_reverse.mp hname)
    · simpa using hl
  rw [splitOn_slash, toList_text, List.splitOn_cons_eq_if_modifyHead, if_pos (by decide),
    hsplit]
  simp [Function.comp_def]

theorem eq_slash_or_mem_of_mem_intercalate {c : Char} {parts : List (List Char)}
    (h : c ∈ ['/'].intercalate parts) : c = '/' ∨ ∃ part ∈ parts, c ∈ part := by
  induction parts with
  | nil => cases h
  | cons part parts ih =>
    cases parts with
    | nil => exact .inr ⟨part, List.mem_cons_self, by simpa using h⟩
    | cons next parts =>
      rw [List.intercalate_cons_cons, List.append_assoc, List.mem_append, List.mem_append,
        List.mem_singleton] at h
      rcases h with h | h | h
      · exact .inr ⟨part, List.mem_cons_self, h⟩
      · exact .inl h
      · apply (ih h).imp_right
        rintro ⟨other, hother, hc⟩
        exact ⟨other, List.mem_cons_of_mem _ hother, hc⟩

theorem not_mem_text {c : Char} {l : Location} (hc : c ≠ '/') (h : ∀ name ∈ l, c ∉ name.toList) :
    c ∉ l.text.toList := by
  rw [toList_text]
  intro hmem
  rcases List.mem_cons.mp hmem with rfl | hmem
  · exact hc rfl
  · rcases eq_slash_or_mem_of_mem_intercalate hmem with rfl | ⟨part, hpart, hcs⟩
    · exact hc rfl
    · obtain ⟨name, hname, rfl⟩ := List.mem_map.mp hpart
      exact h name (List.mem_reverse.mp hname) hcs

namespace Proper

variable {tree : FileTree} (htree : tree.Proper)
include htree

theorem directory_above {above l : Location} {e : Entry} (h : tree.entry? (above ++ l) = some e)
    (hne : above ≠ []) : tree.entry? l = some .directory := by
  induction above generalizing e with
  | nil => exact (hne rfl).elim
  | cons name above ih =>
    have hparent := htree.parent name (above ++ l) e h
    cases above with
    | nil => exact hparent
    | cons => exact ih hparent (by simp)

theorem walk_names (names : List String) (l : Location) {e : Entry}
    (h : tree.entry? (names.reverse ++ l) = some e) :
    tree.walk l names = .ok (names.reverse ++ l) := by
  induction names generalizing l with
  | nil => rfl
  | cons name names ih =>
    have hname : IsName name := htree.isName _ e h name (by simp)
    have hdirectory := htree.directory_above h (by simp)
    rw [List.reverse_cons, List.append_assoc] at h ⊢
    rw [walk, hdirectory]
    dsimp only
    rw [if_neg (by simp [hname.ne_empty, hname.ne_here]), if_neg hname.ne_parent,
      if_neg (Nat.not_lt.mpr hname.size_le)]
    exact ih (name :: l) h

/-- The path of an entry leads to it from everywhere. -/
theorem resolve_text (here : Location) {l : Location} {e : Entry} (hl : l ≠ [])
    (h : tree.entry? l = some e) (hsize : l.text.utf8ByteSize ≤ maxPathSize) :
    tree.resolve here l.text = .ok (l, e) := by
  have hnames := htree.isName l e h
  have hnul : Char.ofNat 0 ∉ l.text.toList :=
    not_mem_text (by decide) fun name hn => (hnames name hn).nul_not_mem
  have hwalk : tree.walk [] (l.text.splitOn "/") = .ok l := by
    rw [splitOn_text hl fun name hn => (hnames name hn).slash_not_mem, walk]
    have hreverse : l.reverse.reverse ++ [] = l := by simp
    rw [← hreverse] at h
    refine (htree.walk_names l.reverse [] h).trans ?_
    rw [hreverse]
  have hlocate : tree.locate here l.text = .ok l := by
    rw [locate]
    rw [toList_text] at hnul ⊢
    dsimp only
    rw [if_neg (by rwa [List.contains_iff_mem]), if_neg (Nat.not_lt.mpr hsize), if_pos rfl, hwalk]
  simp only [resolve, hlocate, bind, Except.bind, h]
  rfl

end Proper

end FileTree

namespace Config

open FileTree

/-! ## The search -/

/-- The directory holds a regular file of that name, under a path that is not too long. -/
structure HasFile (tree : FileTree) (directory : Location) (name : String) : Prop where
  isFile : ∃ content, tree.entry? (name :: directory) = some (.file content)
  size_le : (Location.text (name :: directory)).utf8ByteSize ≤ maxPathSize

theorem isFile_iff {tree : FileTree} {directory : Location} {name : String} :
    tree.isFile (name :: directory) = true ↔ HasFile tree directory name := by
  unfold isFile
  split
  · rename_i content h
    rw [decide_eq_true_iff]
    constructor
    · intro hsize
      exact ⟨⟨content, h⟩, hsize⟩
    · intro hfile
      exact hfile.size_le
  · rename_i h
    constructor
    · intro hfalse
      cases hfalse
    · rintro ⟨⟨content, hcontent⟩, -⟩
      exact (h content hcontent).elim

/-- The file is a configuration file in the deepest directory at or above `start` that has one, and
goes there by the preferred name. -/
structure Nearest (tree : FileTree) (start directory : Location) (name : String) : Prop where
  above : directory <:+ start
  hasFile : HasFile tree directory name
  preferred : ∃ before after, fileNames = before ++ name :: after ∧
    ∀ other ∈ before, ¬HasFile tree directory other
  deepest : ∀ deeper, deeper <:+ start → directory.length < deeper.length →
    ∀ other ∈ fileNames, ¬HasFile tree deeper other

theorem find?_eq_some_iff {tree : FileTree} {directory : Location} {name : String} :
    (fileNames.find? fun name => tree.isFile (name :: directory)) = some name ↔
      HasFile tree directory name ∧ ∃ before after, fileNames = before ++ name :: after ∧
        ∀ other ∈ before, ¬HasFile tree directory other := by
  rw [List.find?_eq_some_iff_append, isFile_iff]
  simp only [Bool.not_eq_true', ← Bool.not_eq_true, isFile_iff]

theorem find?_eq_none_iff {tree : FileTree} {directory : Location} :
    (fileNames.find? fun name => tree.isFile (name :: directory)) = none ↔
      ∀ name ∈ fileNames, ¬HasFile tree directory name := by
  simp only [List.find?_eq_none, isFile_iff]

section Search

variable {tree : FileTree} {start directory : Location} {name : String}

/-- A directory with a configuration file hides all that are above it. -/
theorem nearest_iff_of_find?_eq_some {first : String}
    (h : (fileNames.find? fun name => tree.isFile (name :: start)) = some first) :
    Nearest tree start directory name ↔ directory = start ∧ name = first := by
  obtain ⟨hfile, hpreferred⟩ := find?_eq_some_iff.mp h
  constructor
  · intro hnearest
    have hdirectory : directory = start := by
      apply hnearest.above.eq_of_length_le
      by_contra hlt
      have hmem : first ∈ fileNames := List.mem_of_find?_eq_some h
      exact hnearest.deepest start (List.suffix_refl start) (by omega) first hmem hfile
    subst hdirectory
    have hname := find?_eq_some_iff.mpr ⟨hnearest.hasFile, hnearest.preferred⟩
    exact ⟨rfl, Option.some.inj (hname.symm.trans h)⟩
  · rintro ⟨rfl, rfl⟩
    refine ⟨List.suffix_refl _, hfile, hpreferred, ?_⟩
    intro deeper habove hlt
    have := habove.length_le
    omega

theorem Nearest.mem_fileNames (h : Nearest tree start directory name) : name ∈ fileNames := by
  obtain ⟨before, after, hnames, -⟩ := h.preferred
  rw [hnames]
  simp

/-- A directory without one leaves the search to its parent. -/
theorem nearest_cons_iff {x : String} {parent : Location}
    (h : ∀ name ∈ fileNames, ¬HasFile tree (x :: parent) name) :
    Nearest tree (x :: parent) directory name ↔ Nearest tree parent directory name := by
  constructor
  · intro hnearest
    have habove : directory <:+ parent := by
      rcases List.suffix_cons_iff.mp hnearest.above with rfl | habove
      · exact (h name hnearest.mem_fileNames hnearest.hasFile).elim
      · exact habove
    refine ⟨habove, hnearest.hasFile, hnearest.preferred, ?_⟩
    intro deeper hdeeper
    exact hnearest.deepest deeper (hdeeper.trans (List.suffix_cons x parent))
  · intro hnearest
    refine ⟨hnearest.above.trans (List.suffix_cons x parent), hnearest.hasFile,
      hnearest.preferred, ?_⟩
    intro deeper hdeeper hlt
    rcases List.suffix_cons_iff.mp hdeeper with rfl | hdeeper
    · exact h
    · exact hnearest.deepest deeper hdeeper hlt

theorem search_eq_some_iff {file : Location} :
    search tree start = some file ↔
      ∃ name directory, file = name :: directory ∧ Nearest tree start directory name := by
  fun_induction search tree start with
  | case1 start first hfind =>
    simp only [nearest_iff_of_find?_eq_some hfind]
    constructor
    · rintro ⟨⟩
      exact ⟨first, start, rfl, rfl, rfl⟩
    · rintro ⟨name, directory, rfl, rfl, rfl⟩
      rfl
  | case2 hfind =>
    constructor
    · intro h
      cases h
    · rintro ⟨name, directory, -, hnearest⟩
      obtain rfl := List.suffix_nil.mp hnearest.above
      exact (find?_eq_none_iff.mp hfind name hnearest.mem_fileNames hnearest.hasFile).elim
  | case3 x parent hfind ih =>
    simp only [nearest_cons_iff (find?_eq_none_iff.mp hfind)]
    exact ih

theorem search_eq_none_iff :
    search tree start = none ↔
      ∀ directory, directory <:+ start → ∀ name ∈ fileNames, ¬HasFile tree directory name := by
  fun_induction search tree start with
  | case1 start first hfind =>
    constructor
    · intro h
      cases h
    · intro h
      have hmem : first ∈ fileNames := List.mem_of_find?_eq_some hfind
      exact (h start (List.suffix_refl start) first hmem (find?_eq_some_iff.mp hfind).1).elim
  | case2 hfind =>
    refine ⟨fun _ directory habove => ?_, fun _ => rfl⟩
    obtain rfl := List.suffix_nil.mp habove
    exact find?_eq_none_iff.mp hfind
  | case3 x parent hfind ih =>
    rw [ih]
    constructor
    · intro h directory habove
      rcases List.suffix_cons_iff.mp habove with rfl | habove
      · exact find?_eq_none_iff.mp hfind
      · exact h directory habove
    · intro h directory habove
      exact h directory (habove.trans (List.suffix_cons x parent))

end Search

/-! ## Discovery and loading -/

/-- The nearest configuration file is found, and nothing else is: directories of such a name are
passed by, and a deeper file goes before one with a preferred name. Without an explicit path that
file is loaded by its path, which leads to it wherever it is given. -/
theorem discovery_finds_nearest {tree : FileTree} {here l : Location}
    (explain : Format → String → String) (start : Option String)
    (hstart : tree.resolve here (start.getD ".") = .ok (l, .directory)) :
    ∃ found, discover tree here (start.getD ".") = .ok found ∧
      (found = none ↔
        ∀ directory, directory <:+ l → ∀ name ∈ fileNames, ¬HasFile tree directory name) ∧
      (∀ file, found = some file ↔
        ∃ name directory, file = name :: directory ∧ Nearest tree l directory name) ∧
      (found = none → load explain tree here none start = .ok none) ∧
      ∀ file, found = some file →
        load explain tree here none start = (loadFile explain tree here file.text).map some ∧
        ∃ content, tree.entry? file = some (.file content) ∧
          (tree.Proper →
            tree.resolve here file.text = .ok (file, .file content) ∧
            load explain tree here none start =
              (loadEntry explain file.text (.file content)).map some) := by
  have hdiscover : discover tree here (start.getD ".") = .ok (search tree l) := by
    rw [discover, hstart]
  refine ⟨search tree l, hdiscover, search_eq_none_iff, fun _ => search_eq_some_iff, ?_, ?_⟩
  · intro hnone
    rw [load, hdiscover, hnone]
    rfl
  · intro file hfound
    obtain ⟨name, directory, rfl, hnearest⟩ := search_eq_some_iff.mp hfound
    obtain ⟨⟨content, hcontent⟩, hsize⟩ := hnearest.hasFile
    have hload : load explain tree here none start =
        (loadFile explain tree here (Location.text (name :: directory))).map some := by
      rw [load, hdiscover, hfound]
      rfl
    refine ⟨hload, content, hcontent, ?_⟩
    intro htree
    have hresolve := htree.resolve_text here (by simp) hcontent hsize
    refine ⟨hresolve, ?_⟩
    rw [hload, loadFile, hresolve]

/-- A file in the parent goes before one with a preferred name at the root, and a directory of the
preferred name is passed by. -/
theorem discovery_finds_nearest_in_parent :
    let tree : FileTree := ⟨[(["a"], .directory), (["b", "a"], .directory),
      ([".readexrc.json", "a"], .directory), (["readex.json", "a"], .file "\x7b\x7d".toUTF8),
      ([".readexrc.json"], .file "[]".toUTF8)]⟩
    let explain : Format → String → String := fun _ _ => ""
    tree.Proper ∧ tree.resolve [] "/a/b" = .ok (["b", "a"], .directory) ∧
      discover tree [] "/a/b" = .ok (some ["readex.json", "a"]) ∧
      load explain tree [] none (some "/a/b") =
        (loadFile explain tree [] "/a/readex.json").map some ∧
      ∃ content, tree.resolve [] "/a/readex.json" = .ok (["readex.json", "a"], .file content) := by
  intro tree explain
  have htree : tree.Proper := by
    apply proper_of_entries
    · decide
    · simp only [tree, List.forall_mem_cons]
      exact ⟨rfl, rfl, rfl, rfl, rfl, List.forall_mem_nil _⟩
  have hstart : tree.resolve [] "/a/b" = .ok (["b", "a"], .directory) := by
    have htext : Location.text ["b", "a"] = "/a/b" := by decide
    rw [← htext]
    exact htree.resolve_text [] (by decide) rfl (by decide)
  obtain ⟨found, hdiscover, -, -, -, hload⟩ := discovery_finds_nearest explain (some "/a/b") hstart
  have hfound : found = some ["readex.json", "a"] := by
    change discover tree [] "/a/b" = .ok found at hdiscover
    rw [discover, hstart] at hdiscover
    cases hdiscover
    rfl
  obtain ⟨hpath, content, -, hproper⟩ := hload _ hfound
  have htext : Location.text ["readex.json", "a"] = "/a/readex.json" := by decide
  rw [htext] at hpath hproper
  exact ⟨htree, hstart, hfound ▸ hdiscover, hpath, content, (hproper htree).1⟩

end Config

end Legible
