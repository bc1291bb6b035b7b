import Winnow.Proofs.Spec.Values

/-!
# Evaluation stage by stage

The expression of a specification does what its stages do one after the other, and every stage
either fails as the specification says or yields the items that it asks for.

* `Spec.headValue`, `Spec.sortValue`, `Spec.projectValue`, `Spec.value` — the stages as functions on
  values.
* `eval_tree` — the value of the expression of a specification.
* `headValue_array`, `value_of_not_array` — the stages at documents.
-/

namespace Winnow

open Winnow.Json (Document)
open Winnow.Expr (EvalError Computes)
open Winnow.Expr.Item (ofDocument)

/-! ## Stages as functions -/

namespace Spec

/-- What the head of a query yields: the chosen items, all items of an array, or the value itself.
-/
def headValue (isArray : Bool) (s : Spec) (v : Item) : Except EvalError Item :=
  match s.filter with
  | some f =>
      match Comparison.ofMark? f.relation, f.value.operand with
      | some c, .ok operand => Expr.selectItems c f.path (ofDocument operand.written) v
      | _, _ => .ok .null
  | none => .ok (if isArray then Expr.projectItems id v else v)

/-- What the sort of a specification yields. -/
def sortValue (s : Spec) (v : Item) : Except EvalError Item :=
  match s.sort with
  | some o => Expr.sortItems o.path o.direction v
  | none => .ok v

/-- What the projection of a specification yields. -/
def projectValue (s : Spec) (v : Item) : Item :=
  match s.projection with
  | some p => Expr.projectItems p.takeItem v
  | none => v

/-- What the stages of a specification yield one after the other. -/
def value (isArray : Bool) (s : Spec) (v : Item) : Except EvalError Item := do
  let chosen ← s.headValue isArray v
  let sorted ← s.sortValue chosen
  return s.projectValue sorted

end Spec

/-! ## Stages as expressions -/

theorem Filter.exists_of_tree?_eq_some {f : Filter} {e : Expr} (h : f.tree? = some e) :
    ∃ c operand, Comparison.ofMark? f.relation = some c ∧ f.value.operand = .ok operand ∧
      e = .select .current
        (.compare c (Expr.chain f.path) (.literal operand.written)) .current := by
  unfold Filter.tree? at h
  obtain ⟨c, hc, h⟩ := Option.bind_eq_some_iff.1 h
  obtain ⟨operand, hoperand, h⟩ := Option.bind_eq_some_iff.1 h
  refine ⟨c, operand, hc, ?_, (Option.some.inj h).symm⟩
  cases hvalue : f.value.operand with
  | error cause => rw [hvalue] at hoperand; cases hoperand
  | ok v => rw [hvalue] at hoperand; exact congrArg _ (Option.some.inj hoperand)

theorem Spec.headValue_filter {s : Spec} {f : Filter} {c : Comparison} {operand : Scalar}
    (hfilter : s.filter = some f) (hc : Comparison.ofMark? f.relation = some c)
    (hoperand : f.value.operand = .ok operand) (isArray : Bool) :
    s.headValue isArray = Expr.selectItems c f.path (ofDocument operand.written) := by
  funext v
  rw [Spec.headValue, hfilter]
  dsimp only
  rw [hc, hoperand]

theorem computes_head {isArray : Bool} {s : Spec} {e : Expr} (h : s.head? isArray = some e) :
    Computes 10 e (s.headValue isArray) := by
  unfold Spec.head? at h
  cases hfilter : s.filter with
  | none =>
      rw [hfilter] at h
      obtain rfl := Option.some.inj h
      have hvalue : s.headValue isArray = fun v =>
          .ok (if isArray then Expr.projectItems id v else v) := by
        funext v
        rw [Spec.headValue, hfilter]
      rw [hvalue]
      cases isArray with
      | false => exact Expr.computes_current.mono (by decide)
      | true => exact (Expr.computes_project Expr.computes_current).mono (by decide)
  | some f =>
      rw [hfilter] at h
      obtain ⟨c, operand, hc, hoperand, rfl⟩ := Filter.exists_of_tree?_eq_some h
      rw [Spec.headValue_filter hfilter hc hoperand]
      exact Expr.computes_select c f.path operand.written

theorem computes_sort (o : SortKey) : Computes 18 o.tree (Expr.sortItems o.path o.direction) := by
  have hsort := Expr.computes_sortBy o.path
  unfold SortKey.tree
  dsimp only
  split_ifs with hdirection
  · have hvalue : Expr.sortItems o.path o.direction =
        fun v => Expr.reverseItems <$> Expr.ascendingItems o.path v := by
      funext v
      rw [Expr.sortItems, if_pos hdirection]
    rw [hvalue]
    exact Expr.computes_reverse hsort fun v w => Expr.isArray_of_ascendingItems
  · have hvalue : Expr.sortItems o.path o.direction = Expr.ascendingItems o.path := by
      funext v
      rw [Expr.sortItems, if_neg hdirection]
    rw [hvalue]
    exact hsort.mono (by decide)

theorem computes_projection (p : Projection) :
    Computes 8 p.tree fun v => .ok (Expr.projectItems p.takeItem v) := by
  have hhash :
      ∀ paths : List FieldPath, Computes 8 (.project .current (.hash (projectedPairs paths)))
      fun v => .ok
        (Expr.projectItems (Expr.objectOf (paths.map fun path => (pathKey path, path))) v) := by
    intro paths
    have hpairs : projectedPairs paths =
        (paths.map fun path => (pathKey path, path)).map fun pair =>
          (pair.1, Expr.chain pair.2) := by
      rw [projectedPairs, List.map_map]
      rfl
    rw [hpairs]
    exact Expr.computes_project (Expr.computes_hash _)
  obtain ⟨paths⟩ := p
  rcases paths with _ | ⟨path, _ | ⟨second, rest⟩⟩
  · exact hhash []
  · exact (Expr.computes_project (Expr.computes_chain path)).mono (by decide)
  · exact hhash (path :: second :: rest)

/-- A projection takes nothing from null. -/
theorem takeItem_null (p : Projection) : p.takeItem .null = .null := by
  have hpath : ∀ path : FieldPath, Expr.fieldsOf path .null = .null := by
    intro path
    induction path with
    | nil => rfl
    | cons name path ih => exact ih
  obtain ⟨paths⟩ := p
  match paths with
  | [] => rfl
  | [path] => exact hpath path
  | _ :: _ :: _ => rfl

/-- A selection of all items is for nothing where a projection of all items follows it. -/
theorem projectItems_projectItems_id {g : Item → Item} (hg : g .null = .null) (v : Item) :
    Expr.projectItems g (Expr.projectItems id v) = Expr.projectItems g v := by
  cases v with
  | array items =>
      have hitems :
          Expr.dropNulls ((Expr.dropNulls items).map g) = Expr.dropNulls (items.map g) := by
        induction items with
        | nil => rfl
        | cons x items ih =>
            cases hx : x.isNull with
            | true =>
                obtain rfl : x = .null := by cases x <;> first | rfl | cases hx
                simpa [Expr.dropNulls, hg, Json.Value.isNull] using ih
            | false =>
                cases hgx : (g x).isNull <;> simpa [Expr.dropNulls, hx, hgx] using ih
      rw [Expr.projectItems, List.map_id, Expr.projectItems, Expr.projectItems, hitems]
  | _ => rfl

/-! ## The whole expression -/

section

variable {isArray : Bool} {s : Spec} {e : Expr}

/-- The head of a query and the sort after it, if there is one. -/
theorem computes_arranged (h : s.head? isArray = some e) :
    Computes 20 ((s.sort.map SortKey.tree).toList.foldl .pipe e) fun v =>
      s.headValue isArray v >>= s.sortValue := by
  have hhead := computes_head h
  cases hsort : s.sort with
  | none =>
      have hvalue : (fun v => s.headValue isArray v >>= s.sortValue) = s.headValue isArray := by
        have hpure : s.sortValue = pure := by
          funext w
          rw [Spec.sortValue, hsort]
          rfl
        funext v
        rw [hpure, bind_pure]
      rw [hvalue]
      exact hhead.mono (by decide)
  | some o =>
      have hvalue : s.sortValue = Expr.sortItems o.path o.direction := by
        funext w
        rw [Spec.sortValue, hsort]
      rw [hvalue]
      exact Expr.computes_pipe (hhead.mono (by decide)) (computes_sort o)

theorem value_eq_bind (v : Item) :
    s.value isArray v =
      (s.headValue isArray v >>= s.sortValue) >>= fun w => .ok (s.projectValue w) := by
  rw [bind_assoc]
  rfl

/-- Without a filter and a sort, a projection of an array is all there is. -/
theorem value_of_dropped {p : Projection} (hfilter : s.filter = none) (hsort : s.sort = none)
    (hprojection : s.projection = some p) (v : Item) :
    s.value true v = .ok (Expr.projectItems p.takeItem v) := by
  rw [value_eq_bind, Spec.headValue, hfilter]
  change s.sortValue (Expr.projectItems id v) >>= _ = _
  rw [Spec.sortValue, hsort]
  change (.ok (s.projectValue (Expr.projectItems id v)) : Except EvalError Item) = _
  rw [Spec.projectValue, hprojection]
  exact congrArg _ (projectItems_projectItems_id (takeItem_null p) v)

/-- Without a projection the sort is the last stage. -/
theorem value_of_unprojected (hprojection : s.projection = none) :
    s.value isArray = fun v => s.headValue isArray v >>= s.sortValue := by
  have hpure : (fun w => .ok (s.projectValue w)) = (pure : Item → Except EvalError Item) := by
    funext w
    rw [Spec.projectValue, hprojection]
    rfl
  funext v
  rw [value_eq_bind, hpure, bind_pure]

theorem value_of_projected {p : Projection} (hprojection : s.projection = some p) :
    s.value isArray = fun v => (s.headValue isArray v >>= s.sortValue) >>=
      fun w => .ok (Expr.projectItems p.takeItem w) := by
  funext v
  rw [value_eq_bind]
  simp only [Spec.projectValue, hprojection]

/-- The expression of a specification does what the stages do one after the other. -/
theorem computes_tree (h : s.tree? isArray = some e) : Computes 22 e (s.value isArray) := by
  unfold Spec.tree? Spec.trees? at h
  obtain ⟨trees, htrees, h⟩ := Option.bind_eq_some_iff.1 h
  obtain ⟨head, hhead, htrees⟩ := Option.bind_eq_some_iff.1 htrees
  have harranged := computes_arranged hhead
  cases hprojection : s.projection with
  | none =>
      rw [hprojection] at htrees
      obtain rfl := Option.some.inj htrees
      obtain rfl := Option.some.inj h
      rw [value_of_unprojected hprojection]
      exact harranged.mono (by decide)
  | some p =>
      rw [hprojection] at htrees
      obtain rfl := Option.some.inj htrees
      have hproject := (computes_projection p).mono (show 8 ≤ 20 by decide)
      dsimp only at h
      split_ifs at h with hdrop
      · -- where the head is left out, the projection drops the null items in its place
        obtain rfl := Option.some.inj h
        simp only [Bool.and_eq_true, Option.isNone_iff_eq_none] at hdrop
        obtain ⟨⟨rfl, hfilter⟩, hsort⟩ := hdrop
        rw [funext (value_of_dropped hfilter hsort hprojection)]
        exact hproject.mono (by decide)
      · obtain rfl := Option.some.inj h
        rw [value_of_projected hprojection, List.append_eq, List.foldl_append]
        exact Expr.computes_pipe harranged hproject

/-- **The value of the expression of a specification** is what its stages yield. -/
theorem eval_tree [Limits] (h : s.tree? isArray = some e) (v : Item) :
    Expr.eval e v = s.value isArray v :=
  Expr.eval_of_computes (computes_tree h) (by decide) v

end

/-! ## Stages at documents -/

section

variable {s : Spec} {e : Expr}

/-- At an array the head of a query fails where the filter clashes, and else it yields the items
that are kept. -/
theorem headValue_array (h : s.head? true = some e) (items : List Document) :
    (s.Clashes items ∧ ∃ c left right, s.headValue true (ofDocument (.array items)) =
      .error (.unordered c left right)) ∨
    (¬s.Clashes items ∧
      s.headValue true (ofDocument (.array items)) = .ok (ofDocument (.array (s.kept items)))) := by
  unfold Spec.head? at h
  cases hfilter : s.filter with
  | none =>
      refine .inr ⟨fun ⟨f, hf, _⟩ => ?_, ?_⟩
      · rw [hfilter] at hf
        cases hf
      · rw [Spec.headValue, hfilter, Spec.kept, hfilter]
        exact congrArg Except.ok (projectItems_id_ofDocument items)
  | some f =>
      rw [hfilter] at h
      obtain ⟨c, operand, hc, hoperand, -⟩ := Filter.exists_of_tree?_eq_some h
      have htest : ∀ outcome, f.test outcome = fun x => outcome c (x.atPath f.path) operand := by
        intro outcome
        funext x
        rw [Filter.test, hc, hoperand]
      have hkept : s.kept items = (Json.Value.dropNulls items).filter fun x =>
          c.holds (x.atPath f.path) operand := by
        rw [Spec.kept, hfilter, ← htest]
        rfl
      have hclashes : ∀ x, f.clashes x = c.clashes (x.atPath f.path) operand :=
        fun x => congrFun (htest _) x
      rw [Spec.headValue_filter hfilter hc hoperand, hkept]
      rcases selectItems_ofDocument c f.path operand items with
        ⟨⟨x, hx, hclash⟩, left, right, herror⟩ | ⟨hall, hkeep⟩
      · exact .inl ⟨⟨f, hfilter, x, hx, (hclashes x).trans hclash⟩, c, left, right, herror⟩
      · refine .inr ⟨?_, hkeep⟩
        rintro ⟨f', hf', x, hx, hclash⟩
        obtain rfl : f = f' := Option.some.inj (hfilter.symm.trans hf')
        rw [hclashes x, hall x hx] at hclash
        cases hclash

/-- Nothing that is kept is null. -/
theorem isNull_of_mem_kept {items : List Document} {x : Document} (hx : x ∈ s.kept items) :
    x.isNull = false := by
  have hdrop : x ∈ Json.Value.dropNulls items := by
    unfold Spec.kept at hx
    split at hx
    · exact List.mem_of_mem_filter hx
    · exact hx
  simpa using List.of_mem_filter hdrop

theorem mem_kept_of_mem_arranged {items : List Document} {x : Document}
    (hx : x ∈ s.arranged items) : x ∈ s.kept items := by
  unfold Spec.arranged at hx
  split at hx
  · next o _ =>
      unfold SortKey.sorted at hx
      split_ifs at hx
      · exact (SortKey.perm_ascending o.path _).mem_iff.1 (List.mem_reverse.1 hx)
      · exact (SortKey.perm_ascending o.path _).mem_iff.1 hx
  · exact hx

theorem sortable_of_not_unsortable {items : List Document} (h : ¬s.Unsortable items) {o : SortKey}
    (ho : s.sort = some o) : SortKey.Sortable o.path (s.kept items) := by
  by_contra hnot
  refine h ⟨o, ho, fun hempty => hnot (.inl fun x hx => ?_), fun h => hnot (.inl h),
    fun h => hnot (.inr h)⟩
  rw [hempty] at hx
  exact absurd hx List.not_mem_nil

/-- The sort fails at items that cannot be sorted. -/
theorem sortValue_of_unsortable {items : List Document} (h : s.Unsortable items) :
    s.sortValue (ofDocument (.array (s.kept items))) = .error .argumentKind := by
  obtain ⟨o, ho, -, hnumbers, htexts⟩ := h
  rw [Spec.sortValue, ho]
  exact sortItems_of_not_sortable fun h => h.elim hnumbers htexts

/-- The sort of items that can be sorted yields an array, and without keys off the number line the
one that the specification asks for. -/
theorem exists_sortValue {items : List Document} (h : ¬s.Unsortable items) :
    ∃ w, s.sortValue (ofDocument (.array (s.kept items))) = .ok w ∧
      (s.NaNFree items → w = ofDocument (.array (s.arranged items))) := by
  cases ho : s.sort with
  | none =>
      refine ⟨ofDocument (.array (s.kept items)), ?_, fun _ => ?_⟩
      · rw [Spec.sortValue, ho]
      · rw [Spec.arranged, ho]
  | some o =>
      have hsortable := sortable_of_not_unsortable h ho
      obtain ⟨sorted, hsorted⟩ := exists_sortItems hsortable
      refine ⟨.array sorted, ?_, fun hnan => ?_⟩
      · rw [Spec.sortValue, ho]
        exact hsorted
      · have hvalue := sortItems_ofDocument hsortable (hnan o ho)
        rw [hsorted] at hvalue
        rw [Spec.arranged, ho]
        exact Except.ok.inj hvalue

theorem projectValue_arranged (items : List Document) :
    s.projectValue (ofDocument (.array (s.arranged items))) =
      ofDocument (s.meaning (.array items)) := by
  rw [Spec.projectValue, Spec.meaning]
  cases s.projection with
  | none => rfl
  | some p => exact projectItems_ofDocument p fun x hx =>
      isNull_of_mem_kept (mem_kept_of_mem_arranged hx)

/-- What the stages yield at an array. -/
theorem value_array (h : s.head? true = some e) (items : List Document) :
    (s.Clashes items ∧ ∃ c left right, s.value true (ofDocument (.array items)) =
      .error (.unordered c left right)) ∨
    (¬s.Clashes items ∧ s.Unsortable items ∧
      s.value true (ofDocument (.array items)) = .error .argumentKind) ∨
    (¬s.Clashes items ∧ ¬s.Unsortable items ∧
      ∃ w, s.value true (ofDocument (.array items)) = .ok w ∧
        (s.NaNFree items → w = ofDocument (s.meaning (.array items)))) := by
  rw [value_eq_bind]
  rcases headValue_array h items with ⟨hclash, c, left, right, hhead⟩ | ⟨hclash, hhead⟩
  · exact .inl ⟨hclash, c, left, right, by rw [hhead]; rfl⟩
  rw [hhead]
  change _ ∨ (_ ∧ _ ∧ (s.sortValue (ofDocument (.array (s.kept items))) >>= _) = _) ∨
    (_ ∧ _ ∧ ∃ w, (s.sortValue (ofDocument (.array (s.kept items))) >>= _) = _ ∧ _)
  by_cases hsort : s.Unsortable items
  · exact .inr (.inl ⟨hclash, hsort, by rw [sortValue_of_unsortable hsort]; rfl⟩)
  · obtain ⟨w, hw, hmeaning⟩ := exists_sortValue hsort
    refine .inr (.inr ⟨hclash, hsort, s.projectValue w, by rw [hw]; rfl, fun hnan => ?_⟩)
    rw [hmeaning hnan, projectValue_arranged]

/-- At what is no array a filter yields null, and without one the head is the value itself. -/
theorem headValue_of_not_array (h : s.head? false = some e) {v : Item} (hv : v.isArray = false) :
    s.headValue false v = .ok (if s.filter.isSome then .null else v) := by
  cases hfilter : s.filter with
  | none =>
      rw [Spec.headValue, hfilter]
      rfl
  | some f =>
      rw [Spec.head?, hfilter] at h
      obtain ⟨c, operand, hc, hoperand, -⟩ := Filter.exists_of_tree?_eq_some h
      rw [Spec.headValue_filter hfilter hc hoperand]
      cases v with
      | array items => cases hv
      | _ => rfl

theorem sortItems_of_not_array {o : SortKey} {v : Item} (hv : v.isArray = false) :
    Expr.sortItems o.path o.direction v = .error .argumentKind := by
  have hascending : Expr.ascendingItems o.path v = .error .argumentKind := by
    cases v with
    | array items => cases hv
    | _ => rfl
  rw [Expr.sortItems, hascending]
  split_ifs <;> rfl

theorem projectItems_of_not_array {g : Item → Item} {v : Item} (hv : v.isArray = false) :
    Expr.projectItems g v = .null := by
  cases v with
  | array items => cases hv
  | _ => rfl

theorem meaning_of_not_array {d : Document} (hd : d.isArray = false) :
    s.meaning d = if s.filter.isSome || s.projection.isSome then .null else d := by
  cases d with
  | array items => cases hd
  | _ => rfl

/-- What the stages yield at what is no array. -/
theorem value_of_not_array (h : s.head? false = some e) {d : Document} (hd : d.isArray = false) :
    (s.sort ≠ none ∧ s.value false (ofDocument d) = .error .argumentKind) ∨
    (s.sort = none ∧ s.value false (ofDocument d) = .ok (ofDocument (s.meaning d))) := by
  have hv := (isArray_ofDocument d).trans hd
  have hhead : (if s.filter.isSome then Json.Value.null else ofDocument d).isArray = false := by
    split_ifs
    · rfl
    · exact hv
  rw [value_eq_bind, headValue_of_not_array h hv, meaning_of_not_array hd]
  change (_ ∧ (s.sortValue (if s.filter.isSome then .null else ofDocument d) >>= _) = _) ∨
    (_ ∧ (s.sortValue (if s.filter.isSome then .null else ofDocument d) >>= _) = _)
  cases hsort : s.sort with
  | some o =>
      refine .inl ⟨Option.some_ne_none o, ?_⟩
      rw [Spec.sortValue, hsort]
      dsimp only
      rw [sortItems_of_not_array hhead]
      rfl
  | none =>
      refine .inr ⟨rfl, ?_⟩
      rw [Spec.sortValue, hsort]
      change Except.ok (s.projectValue _) = _
      rw [Spec.projectValue]
      cases s.projection with
      | none => cases s.filter <;> rfl
      | some p =>
          dsimp only
          rw [projectItems_of_not_array hhead, Option.isSome_some, Bool.or_true]
          rfl

end

end Winnow
