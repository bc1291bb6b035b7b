import Winnow.Proofs.Json.Characters
import Winnow.Proofs.Outcome
import Winnow.Spec.Query

/-!
# The characters of a query text

A specification is compiled to a text without control characters, whatever stands in it, so the text
is one line.

* `noControl_renderPath`, `noControl_renderLiteral` — the parts that come from outside.
* `noControl_query` — the whole text.
-/

namespace Winnow

/-! ## Parts -/

theorem noControl_intercalate {mark : List CodePoint} (hmark : NoControl mark)
    {parts : List (List CodePoint)}
    (h : ∀ part ∈ parts, NoControl part) : NoControl (mark.intercalate parts) := by
  induction parts with
  | nil => exact .nil
  | cons part parts ih =>
      obtain ⟨hpart, hparts⟩ := List.forall_mem_cons.1 h
      cases parts with
      | nil =>
          rw [List.intercalate_singleton]
          exact hpart
      | cons next parts =>
          rw [List.intercalate_cons_cons]
          exact (hpart.append hmark).append (ih hparts)

theorem not_isNameChar_control : ∀ n : Fin 32, Text.isNameStart (CodePoint.ofNat n) = false ∧
    Text.isNameChar (CodePoint.ofNat n) = false := by decide

theorem noControl_bareName {name : List CodePoint} (h : Text.isBareName name = true) :
    NoControl name := by
  -- below the blank no character is one of names
  have hsmall : ∀ c : CodePoint, c.toNat < 0x20 →
      Text.isNameStart c = false ∧ Text.isNameChar c = false := by
    intro c hc
    have hnot := not_isNameChar_control ⟨c.toNat, hc⟩
    rwa [CodePoint.ofNat_toNat] at hnot
  cases name with
  | nil => exact .nil
  | cons c rest =>
      obtain ⟨hstart, hrest⟩ := Bool.and_eq_true_iff.1 h
      refine .cons ?_ fun x hx => ?_
      · by_contra hc
        rw [(hsmall c (not_le.1 hc)).1] at hstart
        cases hstart
      · by_contra hx'
        have hchar := List.all_eq_true.1 hrest x hx
        rw [(hsmall x (not_le.1 hx')).2] at hchar
        cases hchar

theorem noControl_renderSegment (name : Text) : NoControl (renderSegment name) := by
  unfold renderSegment
  split_ifs with hbare
  · exact noControl_bareName hbare
  · exact Json.noControl_writeString _

theorem noControl_renderPath (path : FieldPath) : NoControl (renderPath path) := by
  unfold renderPath
  split_ifs
  · exact .cons (by decide) .nil
  · refine noControl_intercalate (.cons (by decide) .nil) fun part hpart => ?_
    obtain ⟨name, -, rfl⟩ := List.mem_map.1 hpart
    exact noControl_renderSegment name

theorem noControl_escapeTicks {s : List CodePoint} (h : NoControl s) :
    NoControl (escapeTicks s) := by
  intro c hc
  obtain ⟨x, hx, hc⟩ := List.mem_flatMap.1 hc
  split_ifs at hc
  · rcases List.mem_cons.1 hc with rfl | hc
    · decide
    · obtain rfl := List.mem_singleton.1 hc
      decide
  · obtain rfl := List.mem_singleton.1 hc
    exact h c hx

theorem noControl_render {v : Scalar} {text : List CodePoint} (h : v.render = .ok text) :
    NoControl text := by
  cases v with
  | null =>
      obtain rfl := Except.ok.inj h
      exact .of_all (by decide)
  | bool b => cases b <;> obtain rfl := Except.ok.inj h <;> exact .of_all (by decide)
  | number n => exact noControl_numberWrite h
  | text s =>
      obtain rfl := Except.ok.inj h
      exact Json.noControl_writeString _

theorem noControl_renderLiteral {v : Scalar} {text : List CodePoint}
    (h : renderLiteral v = .ok text) :
    NoControl text := by
  obtain ⟨operand, -, h⟩ := exists_of_bind_eq_ok h
  obtain ⟨json, hjson, h⟩ := exists_of_bind_eq_ok h
  obtain rfl := Except.ok.inj h
  exact (NoControl.cons (by decide) (noControl_escapeTicks (noControl_render hjson))).append
    (.cons (by decide) .nil)

/-! ## Stages -/

/-- The marks of relations are no control characters. -/
theorem noControl_relation {relation : Text} (h : relation ∈ relations) :
    NoControl relation.toList := by
  simp only [relations, List.mem_cons, List.not_mem_nil, or_false] at h
  rcases h with rfl | rfl | rfl | rfl | rfl | rfl <;> exact .of_all (by decide)

theorem noControl_filter {f : Filter} (hf : f.relation ∈ relations) {text : List CodePoint}
    (h : f.render = .ok text) : NoControl text := by
  obtain ⟨literal, hliteral, h⟩ := exists_of_bind_eq_ok h
  obtain rfl := Except.ok.inj h
  have hblank : NoControl [.char ' '] := .of_all (by decide)
  have hopen : NoControl (Text.toList "[? ") := .of_all (by decide)
  exact (((((hopen.append (noControl_renderPath _)).append hblank).append
    (noControl_relation hf)).append hblank).append (noControl_renderLiteral hliteral)).append
      (.of_all (by decide))

theorem noControl_sort (o : SortKey) : NoControl o.render := by
  have hopen : NoControl (Text.toList "sort_by(@, &") := .of_all (by decide)
  have hreverse : NoControl (Text.toList "reverse(") := .of_all (by decide)
  have hclose : NoControl [.char ')'] := .of_all (by decide)
  have hascending := (hopen.append (noControl_renderPath o.path)).append hclose
  unfold SortKey.render
  dsimp only
  split_ifs
  · exact (hreverse.append hascending).append hclose
  · exact hascending

theorem noControl_renderPair (path : FieldPath) : NoControl (renderPair path) :=
  ((noControl_renderSegment _).append (.of_all (by decide))).append (noControl_renderPath path)

theorem noControl_allItems : NoControl allItems := .of_all (by decide)

theorem noControl_projection (p : Projection) : NoControl p.render := by
  unfold Projection.render
  split
  · exact noControl_allItems
  · exact (noControl_allItems.append (.of_all (by decide))).append (noControl_renderPath _)
  · refine ((noControl_allItems.append (.of_all (by decide))).append
      (noControl_intercalate (.of_all (by decide)) fun part hpart => ?_)).append
        (.of_all (by decide))
    obtain ⟨path, -, rfl⟩ := List.mem_map.1 hpart
    exact noControl_renderPair path

/-! ## The whole text -/

theorem noControl_stages {s : Spec} (hs : s.Valid) {isArray : Bool} {stages : List (List CodePoint)}
    (h : s.stages isArray = .ok stages) : ∀ stage ∈ stages, NoControl stage := by
  obtain ⟨head, hhead, rfl⟩ : ∃ head, NoControl head ∧ stages =
      s.projection.elim (head :: (s.sort.map SortKey.render).toList) fun p =>
        (if head :: (s.sort.map SortKey.render).toList = [allItems] then []
          else head :: (s.sort.map SortKey.render).toList) ++ [p.render] := by
    unfold Spec.stages at h
    cases hfilter : s.filter with
    | none =>
        rw [hfilter] at h
        refine ⟨baseSelector isArray, ?_, ?_⟩
        · cases isArray <;> exact .of_all (by decide)
        · rw [← Except.ok.inj h]
          cases s.projection <;> rfl
    | some f =>
        rw [hfilter] at h
        obtain ⟨head, hhead, h⟩ := exists_of_bind_eq_ok h
        refine ⟨head, noControl_filter (hs.relation f hfilter) hhead, ?_⟩
        rw [← Except.ok.inj h]
        cases s.projection <;> rfl
  have hsort : ∀ stage ∈ head :: (s.sort.map SortKey.render).toList, NoControl stage := by
    refine List.forall_mem_cons.2 ⟨hhead, fun stage hstage => ?_⟩
    obtain ⟨o, -, rfl⟩ := Option.map_eq_some_iff.1 (Option.mem_toList.1 hstage)
    exact noControl_sort o
  cases s.projection with
  | none => exact hsort
  | some p =>
      have hlast : ∀ stage ∈ [p.render], NoControl stage :=
        List.forall_mem_singleton.2 (noControl_projection p)
      rw [Option.elim_some]
      split_ifs
      · exact hlast
      · exact List.forall_mem_append.2 ⟨hsort, hlast⟩

/-- **A query text has no control characters.** -/
theorem noControl_query {s : Spec} (hs : s.Valid) {isArray : Bool} {query : Text}
    (h : s.query isArray = .ok query) : NoControl query.toList := by
  obtain ⟨stages, hstages, h⟩ := exists_of_bind_eq_ok h
  obtain rfl := Except.ok.inj h
  rw [Text.toList_ofList]
  exact noControl_intercalate (.of_all (by decide)) (noControl_stages hs hstages)

end Winnow
