import Winnow.Proofs.Config.Keys
import Winnow.Proofs.Config.Layers

/-!
# Roots that are no mappings

The root of a configuration is a mapping, or there is none. Any other root is turned away, but for
six values that pass for none: false, the empty text, the empty list, and zero in its three
spellings.

* `hollowRoots`, `isEmpty_iff` — the values that pass for no root.
* `root_of_mem_hollowRoots`, `root_of_not_mem` — what becomes of a root that is no mapping.
* `load_of_not_mapping` — a file with such a root, by itself and over a default file.
-/

namespace Winnow

/-! ## Zero -/

/-- A multiple of a power of two is zero only if the factor is. -/
theorem Point.ofIntWithPrec_eq_zero_iff {n k : ℤ} :
    Dyadic.ofIntWithPrec n k = Dyadic.ofInt 0 ↔ n = 0 := by
  have hzero : Dyadic.ofInt 0 = .zero := rfl
  rw [hzero, Dyadic.ofIntWithPrec]
  split_ifs with h <;> simp [h]

/-- Two floats have the significand zero. -/
theorem Parts.eq_zero_of_ofFloat {x : Float} {negative : Bool} {q : ℤ}
    (h : ofFloat x = .finite negative 0 q) : x = 0.0 ∨ x = -0.0 := by
  have hq : q = -1074 := by
    have := (canonical_of_ofFloat h).full
    omega
  subst hq
  cases negative with
  | false => exact .inl (ofFloat_inj (h.trans ofFloat_zero.symm))
  | true => exact .inr (ofFloat_inj (h.trans (ofFloat_neg ofFloat_zero).symm))

/-- The numbers that are equal to zero. -/
theorem Number.eq_zero_iff {n : Number} :
    n.eq (.int 0) = true ↔ n = .int 0 ∨ n = .float 0.0 ∨ n = .float (-0.0) := by
  constructor
  · intro h
    have hpoint : n.point? = some (.at (Dyadic.ofInt 0)) := (eq_iff.1 h).1
    cases n with
    | int n =>
        have hn : n = 0 := Point.ofIntWithPrec_eq_zero_iff.1 (Point.at.inj (Option.some.inj hpoint))
        exact .inl (congrArg _ hn)
    | float x =>
        rw [point?] at hpoint
        cases hx : Parts.ofFloat x with
        | finite negative m q =>
            rw [hx] at hpoint
            have hm := Point.ofIntWithPrec_eq_zero_iff.1 (Point.at.inj (Option.some.inj hpoint))
            obtain rfl : m = 0 := by split_ifs at hm <;> omega
            exact .inr ((Parts.eq_zero_of_ofFloat hx).imp (congrArg _) (congrArg _))
        | infinite negative =>
            rw [hx] at hpoint
            cases negative <;> cases hpoint
        | nan =>
            rw [hx] at hpoint
            cases hpoint
    | undefined origin => cases hpoint
  · rintro (rfl | rfl | rfl) <;> decide +kernel

/-! ## Roots -/

namespace Config

variable {tree : Tree}

/-- The values that are neither null nor a mapping and pass for no root all the same. -/
def hollowRoots : List Tree :=
  [.bool false, .number (.int 0), .number (.float 0.0), .number (.float (-0.0)), .text "", .list []]

/-- The values that count as empty. -/
theorem isEmpty_iff :
    tree.isEmpty = true ↔ tree = .null ∨ tree = .mapping [] ∨ tree ∈ hollowRoots := by
  cases tree with
  | number n => simpa [hollowRoots, Tree.isEmpty] using Number.eq_zero_iff
  | text s => simpa [hollowRoots, Tree.isEmpty] using Text.isEmpty_iff
  | _ => simp [hollowRoots, Tree.isEmpty]

/-- A value that passes for no root is read as the empty mapping. -/
theorem root_of_mem_hollowRoots (h : tree ∈ hollowRoots) : tree.root = .ok [] := by
  unfold Tree.root
  rw [if_pos (isEmpty_iff.2 (.inr (.inr h)))]

/-- Any other root that is no mapping is turned away. -/
theorem root_of_not_mem (h : tree ∉ hollowRoots) (hnull : tree ≠ .null)
    (hmapping : ∀ entries, tree ≠ .mapping entries) : tree.root = .error .noMapping := by
  have hempty : ¬tree.isEmpty = true := by
    rw [isEmpty_iff]
    rintro (h' | h' | h')
    · exact hnull h'
    · exact hmapping [] h'
    · exact h h'
  unfold Tree.root
  rw [if_neg hempty]
  cases tree with
  | mapping entries => exact absurd rfl (hmapping entries)
  | _ => rfl

/-- The root in a file is that of the tree that its text holds. -/
theorem readMapping_of_load [Loader] {files : Files} {path : Files.Path} {text : Text}
    (hread : files.read path = .ok text) (htree : Loader.load text = .ok tree) :
    readMapping files path = tree.root.mapError ConfigError.setting := by
  rw [readMapping_of_read hread, loadMapping, htree]
  change (tree.root.mapError RootError.setting).mapError RootError.lift = _
  cases tree.root <;> rfl

end Config

/-! ## Files -/

namespace Settings

open Config

section

variable [Limits] [Loader] {files : Files} {path default : Files.Path} {text : Text} {tree : Tree}
  {base : Mapping}

/-- A file that is turned away is turned away over every default file, too. -/
theorem loadOver_of_root_error (hread : files.read path = .ok text)
    (htree : Loader.load text = .ok tree) (hroot : tree.root = .error .noMapping)
    (hbase : readDefault files default = .ok base) :
    loadOver files path default = .error (.setting .noMapping) := by
  have hown : readMapping files path = .error (.setting .noMapping) := by
    rw [readMapping_of_load hread htree, hroot]
    rfl
  have hpath : path ≠ default := by
    rintro rfl
    rw [readDefault_of_read hread, hown] at hbase
    cases hbase
  rw [loadOver, hbase, ok_bind, if_neg hpath, hown]
  rfl

/-- A file with the empty root leaves the default settings. -/
theorem loadOver_of_root_nil (hread : files.read path = .ok text)
    (htree : Loader.load text = .ok tree) (hroot : tree.root = .ok [])
    (hbase : readDefault files default = .ok base) :
    loadOver files path default = ofRoot base := by
  have hown : readMapping files path = .ok [] := by
    rw [readMapping_of_load hread htree, hroot]
    rfl
  rw [loadOver, hbase, ok_bind, hown, ok_bind, if_pos (mergeFits_nil base), merge_nil, ite_self]

/-- **Roots that are no mappings.** A file whose root is neither null nor a mapping is turned away,
by itself and over a default file, unless its root is one of the hollow ones. Such a root passes for
none: by itself the file lacks a query, and over a default file it leaves the default settings. -/
theorem load_of_not_mapping (hread : files.read path = .ok text)
    (htree : Loader.load text = .ok tree) (hnull : tree ≠ .null)
    (hmapping : ∀ entries, tree ≠ .mapping entries) :
    (tree ∉ hollowRoots →
      load files path = .error (.setting .noMapping) ∧
        ∀ default base, readDefault files default = .ok base →
          loadOver files path default = .error (.setting .noMapping)) ∧
    (tree ∈ hollowRoots →
      load files path = .error (.setting (.missing "query")) ∧
        ∀ default base, readDefault files default = .ok base →
          loadOver files path default = ofRoot base) ∧
    SettingError.noMapping.message = "Config root must be a mapping/object" := by
  have hload : load files path = tree.root.mapError ConfigError.setting >>= ofRoot := by
    rw [load, readMapping_of_load hread htree]
  refine ⟨fun hsolid => ?_, fun hhollow => ?_, rfl⟩
  · have hroot := root_of_not_mem hsolid hnull hmapping
    exact ⟨by rw [hload, hroot]; rfl, fun _ _ => loadOver_of_root_error hread htree hroot⟩
  · have hroot := root_of_mem_hollowRoots hhollow
    exact ⟨by rw [hload, hroot]; rfl, fun _ _ => loadOver_of_root_nil hread htree hroot⟩

end

/-- A default file, one that holds a list, and one that holds a list without items. -/
def listFiles : Files where
  entries := [
    ({ names := ["config"] }, .directory),
    ({ names := ["config", "default.yml"] }, .file ageText),
    ({ names := ["names.yml"] }, .file "[a]"),
    ({ names := ["none.yml"] }, .file "[]")]

theorem load_of_not_mapping_lists :
    letI := Limits.ordinary
    let names := Files.Path.ofText "names.yml"
    let none := Files.Path.ofText "none.yml"
    let settings : Settings := {
      log := { level := .debug }
      query := {
        language := "jmespath", dataPath := some "in.json", spec :=
          { sort := some ⟨["age"], "asc"⟩ } }
      output := {} }
    let loader := yamlLoader 491 1100
    listFiles.read names = .ok "[a]" ∧ loader.load "[a]" = .ok (.list [.text "a"]) ∧
      listFiles.read none = .ok "[]" ∧ loader.load "[]" = .ok (.list []) ∧
      load listFiles names = .error (.setting .noMapping) ∧
      loadOver listFiles names defaultPath = .error (.setting .noMapping) ∧
      load listFiles none = .error (.setting (.missing "query")) ∧
      loadOver listFiles none defaultPath = .ok settings := by
  let limits := Limits.ordinary
  intro names none settings loader
  have hnames : listFiles.read names = .ok "[a]" := by decide +kernel
  have hone : loader.load "[a]" = .ok (.list [.text "a"]) := by
    have htokens : Yaml.tokens 491 (Text.toList "[a]") =
        [.flowSequenceStart, .plain "a", .flowSequenceEnd, .streamEnd] := by decide +kernel
    change (loadTree 491 1100 "[a]").mapError _ = _
    rw [loadTree_of_tokens htokens rfl rfl]
    rfl
  have hnone : listFiles.read none = .ok "[]" := by decide +kernel
  have hempty : loader.load "[]" = .ok (.list []) := by
    have htokens : Yaml.tokens 491 (Text.toList "[]") =
        [.flowSequenceStart, .flowSequenceEnd, .streamEnd] := by decide +kernel
    change (loadTree 491 1100 "[]").mapError _ = _
    rw [loadTree_of_tokens htokens rfl rfl]
    rfl
  have hdefault : listFiles.read defaultPath = .ok ageText := by decide +kernel
  have hload : load listFiles defaultPath = .ok settings := by
    change @load (yamlLoader 491 1100) listFiles defaultPath = .ok settings
    decide +kernel
  obtain ⟨base, hbase, hsettings⟩ := exists_of_bind_eq_ok hload
  rw [← readDefault_of_read hdefault] at hbase
  obtain ⟨hturned, -⟩ := load_of_not_mapping hnames hone (by simp) (by simp)
  obtain ⟨-, hpasses, -⟩ := load_of_not_mapping hnone hempty (by simp) (by simp)
  obtain ⟨hself, hover⟩ := hturned (by simp [hollowRoots])
  obtain ⟨hself', hover'⟩ := hpasses (by simp [hollowRoots])
  exact ⟨hnames, hone, hnone, hempty, hself, hover _ _ hbase, hself',
    (hover' _ _ hbase).trans hsettings⟩

end Settings

end Winnow
