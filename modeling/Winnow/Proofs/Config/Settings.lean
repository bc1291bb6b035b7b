import Winnow.Config.Layers
import Winnow.Proofs.Config.ReadSpec

/-!
# Settings that are accepted

* `Settings.Accepted` — settings with a valid specification and a language that there is.
* `accepted_of_ofMapping`, `accepted_of_loadOver` — settings that are read are such settings.
-/

namespace Winnow

/-- Settings of which the specification is valid and the language is there. -/
structure Settings.Accepted (settings : Settings) : Prop where
  spec : settings.query.spec.Valid
  language : Language.find settings.query.language = .ok Language.jmesPath

namespace Config

theorem valid_of_draft {root : Mapping} {draft : Draft} (h : Draft.ofMapping root = .ok draft) :
    draft.spec.Valid := by
  unfold Draft.ofMapping at h
  obtain ⟨log, -, h⟩ := exists_of_bind_eq_ok h
  obtain ⟨level, -, h⟩ := exists_of_bind_eq_ok h
  obtain ⟨toFile, -, h⟩ := exists_of_bind_eq_ok h
  obtain ⟨logDir, -, h⟩ := exists_of_bind_eq_ok h
  obtain ⟨query, -, h⟩ := exists_of_bind_eq_ok h
  obtain ⟨language, -, h⟩ := exists_of_bind_eq_ok h
  obtain ⟨dataPath, -, h⟩ := exists_of_bind_eq_ok h
  obtain ⟨spec, hspec, h⟩ := exists_of_bind_eq_ok h
  obtain ⟨output, -, h⟩ := exists_of_bind_eq_ok h
  obtain ⟨baseDir, -, h⟩ := exists_of_bind_eq_ok h
  obtain ⟨formats, -, h⟩ := exists_of_bind_eq_ok h
  obtain ⟨indent, -, h⟩ := exists_of_bind_eq_ok h
  obtain rfl := Except.ok.inj h
  exact readSpec_valid hspec

/-- A draft that passes the check of its query names the one language. -/
theorem query_of_checkQuery {draft : Draft} {query : QuerySettings}
    (h : draft.checkQuery = .ok query) :
    query.spec = draft.spec ∧ Language.find query.language = .ok Language.jmesPath := by
  unfold Draft.checkQuery at h
  split_ifs at h with hlanguage hblank
  obtain rfl := Except.ok.inj h
  refine ⟨rfl, ?_⟩
  have hid : draft.language = "jmespath" := by
    simpa [Language.ids, Language.all, Language.jmesPath] using hlanguage
  dsimp only
  rw [hid]
  rfl

/-- **Settings that are read are accepted.** -/
theorem accepted_of_ofMapping {root : Mapping} {settings : Settings}
    (h : Settings.ofMapping root = .ok settings) : settings.Accepted := by
  obtain ⟨draft, hdraft, h⟩ := exists_of_bind_eq_ok h
  obtain ⟨log, -, h⟩ := exists_of_bind_eq_ok h
  obtain ⟨query, hquery, h⟩ := exists_of_bind_eq_ok h
  obtain ⟨output, -, h⟩ := exists_of_bind_eq_ok h
  obtain rfl := Except.ok.inj h
  obtain ⟨hspec, hlanguage⟩ := query_of_checkQuery hquery
  refine ⟨?_, hlanguage⟩
  dsimp only
  rw [hspec]
  exact valid_of_draft hdraft

theorem accepted_of_loadOver [Limits] [Loader] {files : Files} {path default : Files.Path}
    {settings : Settings}
    (h : Settings.loadOver files path default = .ok settings) : settings.Accepted := by
  obtain ⟨base, -, h⟩ := exists_of_bind_eq_ok h
  split_ifs at h
  · exact accepted_of_ofMapping (eq_ok_of_mapError_eq_ok h)
  · obtain ⟨override, -, h⟩ := exists_of_bind_eq_ok h
    split_ifs at h
    exact accepted_of_ofMapping (eq_ok_of_mapError_eq_ok h)

end Config

end Winnow
