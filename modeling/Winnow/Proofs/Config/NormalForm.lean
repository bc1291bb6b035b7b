import Winnow.Command.Run
import Winnow.Proofs.Config.Settings

/-!
# The normal form of settings

Settings that are accepted are in a form that the rest of the program can rely on, and a
configuration that spells them out is read as the same settings again.

* `Settings.Normal` — settings in normal form.
* `Settings.toMapping` — settings spelled out.
* `normal_of_ofMapping` — what is accepted is in normal form.
* `ofMapping_toMapping` — settings in normal form are read from their own mapping.
* `Output.formats` — the formats of the writers in use.
* `settings_normal` — accepted settings are in normal form, usable, and read again.
-/

namespace Winnow

open Winnow.Config (Tree Mapping Draft)

/-- Settings in normal form: they are accepted, no path is blank, and there is a format. -/
structure Settings.Normal (s : Settings) : Prop extends s.Accepted where
  dataPath : ∀ path, s.query.dataPath = some path → Text.isAllBlank path = false
  logDir : Text.isAllBlank s.log.dir = false
  baseDir : Text.isAllBlank s.output.baseDir = false
  formats : s.output.formats ≠ []

/-! ## Settings spelled out -/

/-- Log settings as a mapping. -/
def LogSettings.toTree (s : LogSettings) : Tree :=
  .mapping [(.text "level", .text s.level.name), (.text "to_file", .bool s.toFile),
    (.text "dir", .text s.dir)]

/-- Query settings as a mapping; a missing path is null. -/
def QuerySettings.toTree (s : QuerySettings) : Tree :=
  .mapping [(.text "language", .text s.language),
    (.text "data", (s.dataPath.map .text).getD .null),
    (.text "spec", Tree.ofDocument s.spec.toDocument)]

/-- Output settings as a mapping. -/
def OutputSettings.toTree (s : OutputSettings) : Tree :=
  .mapping [(.text "base_dir", .text s.baseDir),
    (.text "formats", .list ((s.formats.map Format.name).map .text)),
    (.text "indent", .number (.int s.indent))]

/-- Settings as the root of a configuration. -/
def Settings.toMapping (s : Settings) : Mapping :=
  [(.text "log", s.log.toTree), (.text "query", s.query.toTree), (.text "output", s.output.toTree)]

namespace Config

/-! ## Accepted settings -/

section

variable {draft : Draft}

theorem logDir_of_checkLog {log : LogSettings} (h : draft.checkLog = .ok log) :
    Text.isAllBlank log.dir = false := by
  unfold Draft.checkLog at h
  split at h
  · cases h
  · split_ifs at h with hblank
    obtain rfl := Except.ok.inj h
    exact Bool.eq_false_iff.2 hblank

theorem dataPath_of_checkQuery {query : QuerySettings} (h : draft.checkQuery = .ok query)
    {path : Text} (hpath : query.dataPath = some path) : Text.isAllBlank path = false := by
  unfold Draft.checkQuery at h
  split_ifs at h with hlanguage hblank
  obtain rfl := Except.ok.inj h
  have hdraft : draft.dataPath = some path := hpath
  rw [hdraft] at hblank
  exact Bool.eq_false_iff.2 hblank

theorem isSome_ofName?_of_filter {names : List Text}
    (h : ¬(!(names.filter fun name => (Format.ofName? name).isNone).isEmpty) = true) :
    ∀ name ∈ names, ∃ format, Format.ofName? name = some format := by
  intro name hname
  simp only [Bool.not_eq_true, Bool.not_eq_false', List.isEmpty_iff, List.filter_eq_nil_iff] at h
  cases hformat : Format.ofName? name with
  | none => exact absurd (h name hname) (by simp [hformat])
  | some format => exact ⟨format, rfl⟩

theorem output_of_checkOutput {output : OutputSettings} (h : draft.checkOutput = .ok output) :
    Text.isAllBlank output.baseDir = false ∧ output.formats ≠ [] := by
  simp only [Draft.checkOutput] at h
  split_ifs at h with hblank hempty hunknown hnegative
  obtain rfl := Except.ok.inj h
  refine ⟨Bool.eq_false_iff.2 hblank, ?_⟩
  dsimp only
  cases hformats : draft.formats with
  | nil => exact absurd (List.isEmpty_iff.2 hformats) hempty
  | cons name names =>
      obtain ⟨format, hformat⟩ := isSome_ofName?_of_filter hunknown name
        (hformats ▸ List.mem_cons_self ..)
      rw [List.filterMap_cons_some hformat]
      exact List.cons_ne_nil _ _

end

/-- What is accepted is in normal form. -/
theorem normal_of_ofMapping {root : Mapping} {settings : Settings}
    (h : Settings.ofMapping root = .ok settings) : settings.Normal := by
  have haccepted := accepted_of_ofMapping h
  obtain ⟨draft, -, h⟩ := exists_of_bind_eq_ok h
  obtain ⟨log, hlog, h⟩ := exists_of_bind_eq_ok h
  obtain ⟨query, hquery, h⟩ := exists_of_bind_eq_ok h
  obtain ⟨output, houtput, h⟩ := exists_of_bind_eq_ok h
  obtain rfl := Except.ok.inj h
  obtain ⟨hbaseDir, hformats⟩ := output_of_checkOutput houtput
  exact ⟨haccepted, fun path hpath => dataPath_of_checkQuery hquery hpath, logDir_of_checkLog hlog,
    hbaseDir, hformats⟩

/-! ## Reading settings again -/

theorem ofName?_upper_name (level : Level) :
    Level.ofName? (Text.upper level.name) = some level := by
  cases level <;> decide

theorem lower_trim_name (format : Format) : Text.lower (Text.trim format.name) = format.name := by
  cases format <;> decide

theorem ofName?_name_format (format : Format) : Format.ofName? format.name = some format := by
  cases format <;> rfl

theorem filterMap_ofName?_name (formats : List Format) :
    (formats.map Format.name).filterMap Format.ofName? = formats := by
  induction formats with
  | nil => rfl
  | cons format formats ih =>
      rw [List.map_cons, List.filterMap_cons_some (ofName?_name_format format), ih]

theorem language_of_find {id : Text} (h : Language.find id = .ok Language.jmesPath) :
    id = "jmespath" := by
  unfold Language.find at h
  split at h
  · next language hfind =>
      have hid := List.find?_some hfind
      rw [Except.ok.inj h, beq_iff_eq] at hid
      exact hid.symm
  · cases h

section

variable {s : Settings}

/-- The draft that is read from the mapping of settings. -/
def draftOf (s : Settings) : Draft where
  level := Text.upper s.log.level.name
  toFile := s.log.toFile
  logDir := s.log.dir
  language := s.query.language
  dataPath := s.query.dataPath
  spec := s.query.spec
  baseDir := s.output.baseDir
  formats := s.output.formats.map Format.name
  indent := s.output.indent

theorem draft_toMapping (h : s.Accepted) : Draft.ofMapping s.toMapping = .ok (draftOf s) := by
  have hspec : readSpec "query.spec" (some (Tree.ofDocument s.query.spec.toDocument)) =
      .ok s.query.spec := readSpec_eq_ok_iff.2 ⟨h.spec, spelledBy_toDocument h.spec⟩
  have hdataPath : optionalText "query.data" (some ((s.query.dataPath.map .text).getD .null)) =
      .ok s.query.dataPath := by
    cases s.query.dataPath <;> rfl
  have hformats : asTexts "output.formats" (.list ((s.output.formats.map Format.name).map .text)) =
      .ok (s.output.formats.map Format.name) := asTexts_eq_ok_iff.2 rfl
  have hlanguage : Text.lower (Text.trim s.query.language) = s.query.language := by
    rw [language_of_find h.language]
    decide
  have hnames : (s.output.formats.map Format.name).map (fun name => Text.lower (Text.trim name)) =
      s.output.formats.map Format.name := by
    rw [List.map_map]
    exact List.map_congr_left fun format _ => lower_trim_name format
  have hread : Draft.ofMapping s.toMapping = (do
      let dataPath ← optionalText "query.data" (some ((s.query.dataPath.map .text).getD .null))
      let spec ← readSpec "query.spec" (some (Tree.ofDocument s.query.spec.toDocument))
      let formats ← asTexts "output.formats" (.list ((s.output.formats.map Format.name).map .text))
      return {
        level := Text.upper s.log.level.name
        toFile := s.log.toFile
        logDir := s.log.dir
        language := Text.lower (Text.trim s.query.language)
        dataPath := dataPath
        spec := spec
        baseDir := s.output.baseDir
        formats := formats.map fun name => Text.lower (Text.trim name)
        indent := s.output.indent }) := rfl
  rw [hread, hdataPath, hspec, hformats]
  change Except.ok _ = Except.ok _
  rw [hlanguage, hnames]
  rfl

/-- Settings in normal form are read from their own mapping. -/
theorem ofMapping_toMapping (h : s.Normal) : Settings.ofMapping s.toMapping = .ok s := by
  have hlog : (draftOf s).checkLog = .ok s.log := by
    rw [Draft.checkLog, draftOf, ofName?_upper_name]
    exact if_neg (Bool.eq_false_iff.1 h.logDir)
  have hquery : (draftOf s).checkQuery = .ok s.query := by
    have hlanguage : ¬s.query.language ∉ Language.ids := by
      rw [language_of_find h.language]
      decide
    have hpath : ¬(s.query.dataPath.map Text.isAllBlank).getD false = true := by
      cases hdataPath : s.query.dataPath with
      | none => exact Bool.false_ne_true
      | some path => exact Bool.eq_false_iff.1 (h.dataPath path hdataPath)
    rw [Draft.checkQuery]
    exact (if_neg hlanguage).trans (if_neg hpath)
  have houtput : (draftOf s).checkOutput = .ok s.output := by
    have hknown : (s.output.formats.map Format.name).filter
        (fun name => (Format.ofName? name).isNone) = [] := by
      rw [List.filter_eq_nil_iff]
      simp [ofName?_name_format]
    have hempty : ¬(s.output.formats.map Format.name).isEmpty = true := by
      simp [h.formats]
    have hindent : ¬((s.output.indent : ℤ) < 0) := by omega
    rw [Draft.checkOutput, draftOf, if_neg (Bool.eq_false_iff.1 h.baseDir), if_neg hempty]
    dsimp only
    rw [hknown, if_neg (by decide), if_neg hindent, filterMap_ofName?_name]
    rfl
  rw [Settings.ofMapping, draft_toMapping h.toAccepted]
  change (draftOf s).checkLog >>= _ = _
  rw [hlog]
  change (draftOf s).checkQuery >>= _ = _
  rw [hquery]
  change (draftOf s).checkOutput >>= _ = _
  rw [houtput]
  rfl

end

end Config

/-! ## Writers -/

/-- The formats of the writers in use, in the order in which they write. -/
def Output.formats (output : Output) : List Format :=
  (output.console.map fun _ => Format.console).toList ++
    (output.file.map fun _ => Format.json).toList

/-- The writers of settings are in use for the formats that are named, whatever the order and
however often. -/
theorem exists_output_of_formats {settings : OutputSettings} (h : settings.formats ≠ []) :
    ∃ output, Output.ofSettings settings = .ok output ∧
      output.formats = [.console, .json].filter (· ∈ settings.formats) := by
  obtain ⟨format, hformat⟩ := List.exists_mem_of_ne_nil _ h
  have hone : Format.console ∈ settings.formats ∨ Format.json ∈ settings.formats := by
    cases format with
    | console => exact .inl hformat
    | json => exact .inr hformat
  by_cases hconsole : Format.console ∈ settings.formats <;>
    by_cases hjson : Format.json ∈ settings.formats <;>
    simp_all [Output.ofSettings, Output.formats]

/-! ## The normal form -/

/-- **Accepted settings are in normal form, usable, and read again.** Every value is among the
allowed ones and no path is blank; there is a service for the language, and there are writers: the
console for its format and then the file for its own, one each, whatever the order and repetition of
the formats. The mapping that spells the settings out is read as the same settings. -/
theorem settings_normal {root : Config.Mapping} {settings : Settings}
    (h : Settings.ofMapping root = .ok settings) :
    settings.Normal ∧
      settings.log.level.name ∈ ([
        "DEBUG", "INFO", "WARNING", "ERROR", "CRITICAL"] : List Text) ∧
      settings.query.language ∈ Language.ids ∧
      (∀ format ∈ settings.output.formats,
        format.name ∈ (["console", "json"] : List Text)) ∧
      Command.serviceOf settings = pure ⟨Language.jmesPath⟩ ∧
      (∃ output, Output.ofSettings settings.output = .ok output ∧
        output.formats = [.console, .json].filter (· ∈ settings.output.formats)) ∧
      Settings.ofMapping settings.toMapping = .ok settings := by
  have hnormal := Config.normal_of_ofMapping h
  refine ⟨hnormal, ?_, ?_, ?_, ?_, exists_output_of_formats hnormal.formats,
    Config.ofMapping_toMapping hnormal⟩
  · cases settings.log.level <;> decide
  · rw [Config.language_of_find hnormal.language]
    decide
  · intro format _
    cases format <;> decide
  · rw [Command.serviceOf, hnormal.language]

/-- A mapping that is oddly spelled: blanks and capital letters around, a format twice, nulls. -/
theorem settings_normal_odd :
    let root : Config.Mapping := [
      (.text "output", .mapping [
        (.text "formats", .list [.text " JSON\n", .text "Console", .text "json"])]),
      (.text "query", .mapping [
        (.text "language", .text " JMESPath "), (.text "data", .null),
        (.text "spec", .mapping [(.text "sort", .mapping [(.text "direction", .text "DESC")])])]),
      (.text "log", .mapping [(.text "level", .text "warning")])]
    let settings : Settings := {
      log := { level := .warning }
      query := { language := "jmespath", dataPath := none, spec := { sort := some ⟨[], "desc"⟩ } }
      output := { formats := [.json, .console, .json] } }
    Settings.ofMapping root = .ok settings ∧
      (∃ output, Output.ofSettings settings.output = .ok output ∧
        output.formats = [.console, .json]) ∧
      Settings.ofMapping settings.toMapping = .ok settings := by
  intro root settings
  have h : Settings.ofMapping root = .ok settings := rfl
  obtain ⟨-, -, -, -, -, houtput, hagain⟩ := settings_normal h
  exact ⟨h, houtput, hagain⟩

end Winnow
