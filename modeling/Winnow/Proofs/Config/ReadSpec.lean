import Winnow.Proofs.Config.Entry
import Winnow.Proofs.Config.Lookup
import Winnow.Proofs.Text.Spelling

/-!
# The language of specifications

A specification is written as a mapping of its stages, and a stage as a mapping of its parts. What
is read is a valid specification, and every valid specification is read from all the ways to write
it.

* `Filter.SpelledBy`, `SortKey.SpelledBy`, `Projection.SpelledBy` — the mappings that write a stage.
* `Spec.SpelledBy` — the values that write a specification.
* `readFilter_eq_ok_iff`, `readSort_eq_ok_iff`, `readProjection_eq_ok_iff` — what the readers of the
  stages accept.
* `readSpec_eq_ok_iff` — what is read as a specification.
* `readSpec_valid` — a configuration names only valid specifications.
* `readSpec_language` — the language of specifications.
-/

namespace Winnow

open Winnow.Config (Tree Mapping Read)

/-! ## Spelling -/

/-- The mappings that write a filter: the relation as it is, the value as it stands in a document.
-/
structure Filter.SpelledBy (f : Filter) (entries : Mapping) : Prop where
  path : FieldPath.SpelledBy f.path (Mapping.get? entries "path")
  relation : Mapping.get? entries "relation" = some (.text f.relation)
  value : Mapping.get? entries "value" = some (Tree.ofDocument f.value.toDocument)

/-- The ways to write a direction: in any case of its letters and with blanks around it; the
ascending one may be left out. -/
inductive SortKey.DirectionSpelledBy : Text → Option Tree → Prop
  | text {direction spelled : Text} (h : Text.Spelled direction spelled) :
      DirectionSpelledBy direction (some (.text spelled))
  | missing : DirectionSpelledBy "asc" none

/-- The mappings that write a sort. -/
structure SortKey.SpelledBy (o : SortKey) (entries : Mapping) : Prop where
  path : FieldPath.SpelledBy o.path (Mapping.get? entries "path")
  direction : SortKey.DirectionSpelledBy o.direction (Mapping.get? entries "direction")

/-- The mappings that write a projection: a list of paths. -/
def Projection.SpelledBy (p : Projection) (entries : Mapping) : Prop :=
  ∃ items, Mapping.get? entries "paths" = some (.list items) ∧
    List.Forall₂ (fun path item => FieldPath.SpelledBy path (some item)) p.paths items

namespace Spec

/-- The ways to write a stage that may be absent: it is left out or null where there is none. -/
inductive StageSpelledBy {β : Type} (spelled : β → Mapping → Prop) : Option β → Option Tree → Prop
  | stage {b : β} {entries : Mapping} (h : spelled b entries) :
      StageSpelledBy spelled (some b) (some (.mapping entries))
  | null : StageSpelledBy spelled none (some .null)
  | missing : StageSpelledBy spelled none none

/-- The values that write a specification: a mapping of its stages with no other keys; null or
nothing at all writes the identity. -/
inductive SpelledBy : Spec → Option Tree → Prop
  | stages {s : Spec} {entries : Mapping}
      (names : ∀ entry ∈ entries, ∃ name ∈ Config.stageNames, entry.1.shown = .ok name)
      (filter : StageSpelledBy Filter.SpelledBy s.filter (Mapping.get? entries "filter"))
      (sort : StageSpelledBy SortKey.SpelledBy s.sort (Mapping.get? entries "sort"))
      (projection :
        StageSpelledBy Projection.SpelledBy s.projection (Mapping.get? entries "projection")) :
      SpelledBy s (some (.mapping entries))
  | null : SpelledBy identity (some .null)
  | missing : SpelledBy identity none

theorem valid_identity : identity.Valid :=
  ⟨fun _ h => (nomatch h), fun _ h => (nomatch h), fun _ h => (nomatch h)⟩

end Spec

namespace Config

variable {key : Text} {value : Tree}

/-! ## Stages -/

theorem readFilter_eq_ok_iff {f : Filter} :
    readFilter key value = .ok f ↔
      f.relation ∈ relations ∧ ∃ entries, value = .mapping entries ∧ f.SpelledBy entries := by
  simp only [readFilter, bind_eq_ok_iff, check_eq_ok_iff, asMapping_eq_ok_iff, asText_eq_ok_iff,
    asPath_eq_ok_iff, asScalar_eq_ok_iff, required_eq_ok_iff, not_not]
  constructor
  · rintro ⟨entries, hvalue, _, hrelation, relation, rfl, hmem, path, hpath, _, hoperand, operand,
      rfl, h⟩
    obtain rfl := Except.ok.inj h
    exact ⟨hmem, entries, hvalue, hpath, hrelation, hoperand⟩
  · rintro ⟨hmem, entries, hvalue, hpath, hrelation, hoperand⟩
    exact ⟨entries, hvalue, _, hrelation, _, rfl, hmem, _, hpath, _, hoperand, _, rfl, rfl⟩

/-- A direction is read from what spells it. -/
theorem readDirection_eq_ok_iff {entries : Mapping} {direction : Text}
    (hdirection : direction ∈ directions) :
    (∃ spelled, entryOr asText entries "direction" key "asc" = .ok spelled ∧
      Text.lower (Text.trim spelled) = direction) ↔
      SortKey.DirectionSpelledBy direction (Mapping.get? entries "direction") := by
  have hspelled : ∀ spelled, Text.lower (Text.trim spelled) = direction ↔
      Text.Spelled direction spelled := by
    simp only [directions, List.mem_cons, List.not_mem_nil, or_false] at hdirection
    rcases hdirection with rfl | rfl
    · exact Text.lower_trim_eq_iff (by decide)
    · exact Text.lower_trim_eq_iff (by decide)
  have hasc : Text.lower (Text.trim "asc") = "asc" := by decide
  simp only [entryOr_eq_ok_iff, asText_eq_ok_iff]
  constructor
  · rintro ⟨spelled, ⟨_, hget, rfl⟩ | ⟨hget, rfl⟩, h⟩
    · rw [hget]
      exact .text ((hspelled spelled).1 h)
    · rw [hget, ← h, hasc]
      exact .missing
  · intro h
    generalize hget : Mapping.get? entries "direction" = raw at h
    cases h with
    | @text _ spelled h => exact ⟨spelled, .inl ⟨_, rfl, rfl⟩, (hspelled spelled).2 h⟩
    | missing => exact ⟨"asc", .inr ⟨rfl, rfl⟩, hasc⟩

theorem readSort_eq_ok_iff {o : SortKey} :
    readSort key value = .ok o ↔
      o.direction ∈ directions ∧ ∃ entries, value = .mapping entries ∧ o.SpelledBy entries := by
  simp only [readSort, bind_eq_ok_iff, check_eq_ok_iff, asMapping_eq_ok_iff, asPath_eq_ok_iff,
    not_not]
  constructor
  · rintro ⟨entries, hvalue, spelled, hspelled, hmem, path, hpath, h⟩
    obtain rfl := Except.ok.inj h
    exact ⟨hmem, entries, hvalue, hpath, (readDirection_eq_ok_iff hmem).1 ⟨spelled, hspelled, rfl⟩⟩
  · rintro ⟨hmem, entries, hvalue, hpath, hdirection⟩
    obtain ⟨spelled, hspelled, hlower⟩ := (readDirection_eq_ok_iff hmem).2 hdirection
    refine ⟨entries, hvalue, spelled, hspelled, hlower ▸ hmem, _, hpath, ?_⟩
    rw [hlower]
    rfl

theorem readProjection_eq_ok_iff {p : Projection} :
    readProjection key value = .ok p ↔
      p.paths ≠ [] ∧ ∃ entries, value = .mapping entries ∧ p.SpelledBy entries := by
  have hpaths : ∀ key value (paths : List FieldPath),
      asList (fun key value => asPath key (some value)) key value = .ok paths ↔
        ∃ items, value = .list items ∧
          List.Forall₂ (fun path item => FieldPath.SpelledBy path (some item)) paths items :=
    fun _ _ _ => asList_eq_ok_iff (fun path item => FieldPath.SpelledBy path (some item))
      fun _ _ _ => asPath_eq_ok_iff
  simp only [readProjection, bind_eq_ok_iff, check_eq_ok_iff, asMapping_eq_ok_iff,
    required_eq_ok_iff, hpaths, List.isEmpty_iff]
  constructor
  · rintro ⟨entries, hvalue, _, hlisted, paths, ⟨items, rfl, hitems⟩, hne, h⟩
    obtain rfl := Except.ok.inj h
    exact ⟨hne, entries, hvalue, items, hlisted, hitems⟩
  · rintro ⟨hne, entries, hvalue, items, hlisted, hitems⟩
    exact ⟨entries, hvalue, _, hlisted, _, ⟨items, rfl, hitems⟩, hne, rfl⟩

/-- A stage that may be absent is read from what spells it. -/
theorem readStage_eq_ok_iff {β : Type} {reader : Text → Tree → Read β} {valid : β → Prop}
    {spelled : β → Mapping → Prop}
    (h : ∀ key value b, reader key value = .ok b ↔
      valid b ∧ ∃ entries, value = .mapping entries ∧ spelled b entries)
    {entries : Mapping} {name : Text} {stage : Option β} :
    readStage reader key entries name = .ok stage ↔
      (∀ b, stage = some b → valid b) ∧
        Spec.StageSpelledBy spelled stage (Mapping.get? entries name) := by
  have hread : ∀ value, some <$> reader (key ++ "." ++ name) value = .ok stage ↔
      ∃ b, reader (key ++ "." ++ name) value = .ok b ∧ stage = some b := by
    intro value
    cases reader (key ++ "." ++ name) value <;> simp [Functor.map, Except.map, eq_comm]
  constructor
  · intro hstage
    unfold readStage at hstage
    split at hstage
    · next hget =>
        cases hstage
        rw [hget]
        exact ⟨fun _ h => (nomatch h), .missing⟩
    · next hget =>
        cases hstage
        rw [hget]
        exact ⟨fun _ h => (nomatch h), .null⟩
    · next hget =>
        obtain ⟨b, hb, rfl⟩ := (hread _).1 hstage
        obtain ⟨hvalid, entries', rfl, hspelled⟩ := (h _ _ _).1 hb
        rw [hget]
        exact ⟨fun _ h => Option.some.inj h ▸ hvalid, .stage hspelled⟩
  · rintro ⟨hvalid, hspelled⟩
    unfold readStage
    generalize Mapping.get? entries name = raw at hspelled
    cases hspelled with
    | @stage b entries' hspelled =>
        exact (hread _).2 ⟨b, (h _ _ _).2 ⟨hvalid b rfl, entries', rfl, hspelled⟩, rfl⟩
    | null => rfl
    | missing => rfl

/-! ## Specifications -/

/-- The keys of a mapping are all shown as names of stages if no name is left over. -/
theorem stageNames_iff {entries : Mapping} :
    (∃ names, Mapping.shownKeys entries = .ok names ∧
        ¬(!(names.filter (· ∉ stageNames)).isEmpty) = true) ↔
      ∀ entry ∈ entries, ∃ name ∈ stageNames, entry.1.shown = .ok name := by
  simp only [Mapping.shownKeys_eq_ok_iff]
  induction entries with
  | nil => simp
  | cons entry entries ih =>
      rw [List.forall_mem_cons, ← ih]
      constructor
      · rintro ⟨names, hnames, hleft⟩
        obtain ⟨name, others, hname, hothers, rfl⟩ := List.forall₂_cons_left_iff.1 hnames
        by_cases hmem : name ∈ stageNames
        · exact ⟨⟨name, hmem, hname⟩, others, hothers, by simpa [hmem] using hleft⟩
        · simp [hmem] at hleft
      · rintro ⟨⟨name, hmem, hname⟩, others, hothers, hleft⟩
        exact ⟨name :: others, .cons hname hothers, by simpa [hmem] using hleft⟩

/-- What is read as a specification is what spells a valid one. -/
theorem readSpec_eq_ok_iff {raw : Option Tree} {s : Spec} :
    readSpec key raw = .ok s ↔ s.Valid ∧ s.SpelledBy raw := by
  constructor
  · intro h
    unfold readSpec at h
    split at h
    · cases h
      exact ⟨Spec.valid_identity, .missing⟩
    · cases h
      exact ⟨Spec.valid_identity, .null⟩
    · simp only [bind_eq_ok_iff, check_eq_ok_iff, asMapping_eq_ok_iff,
        readStage_eq_ok_iff fun _ _ _ => readFilter_eq_ok_iff,
        readStage_eq_ok_iff fun _ _ _ => readSort_eq_ok_iff,
        readStage_eq_ok_iff fun _ _ _ => readProjection_eq_ok_iff] at h
      obtain ⟨entries, rfl, names, hnames, hleft, filter, ⟨hrelation, hfilter⟩, sort,
        ⟨hdirection, hsort⟩, projection, ⟨hpaths, hprojection⟩, h⟩ := h
      obtain rfl := Except.ok.inj h
      refine ⟨⟨hrelation, hdirection, hpaths⟩, .stages ?_ hfilter hsort hprojection⟩
      exact stageNames_iff.1 ⟨names, eq_ok_of_mapError_eq_ok hnames, hleft⟩
  · rintro ⟨hvalid, hspelled⟩
    cases hspelled with
    | stages hnames hfilter hsort hprojection =>
        obtain ⟨names, hnames, hleft⟩ := stageNames_iff.2 hnames
        simp only [readSpec, bind_eq_ok_iff, check_eq_ok_iff, asMapping_eq_ok_iff,
          readStage_eq_ok_iff fun _ _ _ => readFilter_eq_ok_iff,
          readStage_eq_ok_iff fun _ _ _ => readSort_eq_ok_iff,
          readStage_eq_ok_iff fun _ _ _ => readProjection_eq_ok_iff]
        exact ⟨_, rfl, names, by rw [hnames]; rfl, hleft, _, ⟨hvalid.relation, hfilter⟩, _,
          ⟨hvalid.direction, hsort⟩, _, ⟨hvalid.paths, hprojection⟩, rfl⟩
    | null => rfl
    | missing => rfl

/-- **A specification that is read is valid.** -/
theorem readSpec_valid {raw : Option Tree} {s : Spec} (h : readSpec key raw = .ok s) : s.Valid :=
  (readSpec_eq_ok_iff.1 h).1

/-! ## Specifications spelled out -/

theorem ofItems_map_text (path : FieldPath) :
    Tree.ofItems (path.map .text) = path.map Tree.text := by
  induction path with
  | nil => rfl
  | cons name path ih => rw [List.map_cons, Tree.ofItems, ih, Tree.ofDocument, List.map_cons]

theorem spelledBy_pathDocument (path : FieldPath) :
    FieldPath.SpelledBy path (some (Tree.ofDocument (FieldPath.toDocument path))) := by
  rw [FieldPath.toDocument, Tree.ofDocument, ofItems_map_text]
  exact .segments path

theorem forall₂_spelledBy_pathDocument (paths : List FieldPath) :
    List.Forall₂ (fun path item => FieldPath.SpelledBy path (some item)) paths
      (Tree.ofItems (paths.map FieldPath.toDocument)) := by
  induction paths with
  | nil => exact .nil
  | cons path paths ih => exact .cons (spelledBy_pathDocument path) ih

theorem spelledBy_filterDocument (f : Filter) :
    Spec.StageSpelledBy Filter.SpelledBy (some f) (some (Tree.ofDocument f.toDocument)) :=
  .stage ⟨spelledBy_pathDocument f.path, rfl, rfl⟩

theorem spelledBy_sortDocument {o : SortKey} (h : o.direction ∈ directions) :
    Spec.StageSpelledBy SortKey.SpelledBy (some o) (some (Tree.ofDocument o.toDocument)) := by
  refine .stage ⟨spelledBy_pathDocument o.path, .text ⟨[], o.direction.toList, [], ?_⟩⟩
  have hlower : o.direction.toList.map CodePoint.toLower = o.direction.toList := by
    simp only [directions, List.mem_cons, List.not_mem_nil, or_false] at h
    rcases h with h | h
    · rw [h]
      rfl
    · rw [h]
      rfl
  exact ⟨by simp, fun _ h => (nomatch h), fun _ h => (nomatch h), hlower⟩

theorem spelledBy_projectionDocument (p : Projection) :
    Spec.StageSpelledBy Projection.SpelledBy (some p) (some (Tree.ofDocument p.toDocument)) :=
  .stage ⟨_, rfl, forall₂_spelledBy_pathDocument p.paths⟩

/-- A valid specification is spelled by its document. -/
theorem spelledBy_toDocument {s : Spec} (hs : s.Valid) :
    s.SpelledBy (some (Tree.ofDocument s.toDocument)) := by
  obtain ⟨filter, sort, projection⟩ := s
  refine .stages ?_ ?_ ?_ ?_
  · intro entry hentry
    simp only [Tree.ofEntries, List.mem_cons, List.not_mem_nil, or_false] at hentry
    rcases hentry with rfl | rfl | rfl
    · exact ⟨"filter", by decide, rfl⟩
    · exact ⟨"sort", by decide, rfl⟩
    · exact ⟨"projection", by decide, rfl⟩
  · cases filter with
    | none => exact .null
    | some f => exact spelledBy_filterDocument f
  · cases sort with
    | none => exact .null
    | some o => exact spelledBy_sortDocument (hs.direction o rfl)
  · cases projection with
    | none => exact .null
    | some p => exact spelledBy_projectionDocument p

/-- **The language of specifications.** A value is read as a specification, under whatever key it
stands, exactly if the specification is valid and the value is one of the ways to write it: what is
read is valid, and a valid specification is read from its document and from every other spelling. -/
theorem readSpec_language (key : Text) (s : Spec) :
    (∀ raw, readSpec key raw = .ok s ↔ s.Valid ∧ s.SpelledBy raw) ∧
      (readSpec key (some (Tree.ofDocument s.toDocument)) = .ok s ↔ s.Valid) := by
  refine ⟨fun raw => readSpec_eq_ok_iff, readSpec_valid, fun hs => ?_⟩
  exact readSpec_eq_ok_iff.2 ⟨hs, spelledBy_toDocument hs⟩

example : readSpec "query.spec" (some (.mapping [(.text "sort", .mapping
    [(.text "direction", .text " DeSC\n"), (.text "path", .text "user name!")])])) =
      .ok { sort := some ⟨["user name!"], "desc"⟩ } := by
  rfl

end Config

end Winnow
