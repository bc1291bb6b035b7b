import Winnow.Proofs.Log.Telling
import Winnow.Proofs.Spec.Stepwise
import Winnow.Service

/-!
# Runs of specifications

A service that runs a specification at a document fails in the cases that the specification and the
document tell, and else yields what the specification means there.

* `exists_tells_run`, `outcome_run` — what a run logs, and its outcome apart from that.
* `search_eq_value`, `search_cases` — what a search finds with the query of a specification.
* `run_value` — a run that yields something yields the meaning of the specification.
* `run_error_iff` — when a run fails, and how.
* `run_identity` — a run without stages.
-/

namespace Winnow

open Winnow.Json (Document)
open Winnow.Expr.Item (ofDocument)
open Winnow.Log (runLogged Tells)

/-! ## Outcomes -/

section

variable (language : Language) (v : Item) (s : Spec)

/-- Compiling logs nothing but what goes well. -/
theorem exists_tells_compile : ∃ records,
    Tells (Service.compile ⟨language⟩ v s) records
      ((language.compile v s).mapError QueryError.literal) ∧ ∀ r ∈ records, r.IsRoutine := by
  unfold Service.compile
  dsimp only
  cases language.compile v s with
  | error cause => exact ⟨[], (Log.tells_throw _).bind_error, by simp⟩
  | ok query =>
      have hcompiled : ∀ message : Text, Tells (do Log.write Log.debug message; return query)
          ([⟨Log.debug, message⟩] ++ []) (Except.ok (ε := QueryError) query) :=
        fun message => (Log.tells_write Log.debug message).bind (Log.tells_pure query)
      cases s.isIdentity with
      | false =>
          exact ⟨_, (Log.tells_pure query).bind (hcompiled _), by simp [Log.Record.IsRoutine]⟩
      | true =>
          refine ⟨_, (Log.tells_pure query).bind ((Log.tells_write _ _).bind (hcompiled _)), ?_⟩
          simp [Log.Record.IsRoutine]

section

variable [Limits]

/-- Evaluating logs nothing but what goes well. -/
theorem exists_tells_execute (query : Text) : ∃ records,
    Tells (Service.execute ⟨language⟩ v query) records
      (((language.search query v).mapError QueryError.search).map (QueryResult.mk query)) ∧
      ∀ r ∈ records, r.IsRoutine := by
  unfold Service.execute
  dsimp only
  cases language.search query v with
  | error cause =>
      refine ⟨_, (Log.tells_write _ _).bind (Log.tells_throw _).bind_error, ?_⟩
      simp [Log.Record.IsRoutine]
  | ok w =>
      refine ⟨_, (Log.tells_write _ _).bind ((Log.tells_pure w).bind
        ((Log.tells_write _ _).bind (Log.tells_pure _))), ?_⟩
      simp [Log.Record.IsRoutine]

/-- A run logs nothing but what goes well. It fails like the compilation, and else like the search.
-/
theorem exists_tells_run : ∃ records,
    Tells (Service.run ⟨language⟩ v s) records (do
      let query ← (language.compile v s).mapError QueryError.literal
      ((language.search query v).mapError QueryError.search).map (QueryResult.mk query)) ∧
      ∀ r ∈ records, r.IsRoutine := by
  unfold Service.run
  obtain ⟨compiled, hcompile, hroutine⟩ := exists_tells_compile language v s
  cases hquery : language.compile v s with
  | error cause =>
      rw [hquery] at hcompile
      exact ⟨compiled, hcompile.bind_error, hroutine⟩
  | ok query =>
      rw [hquery] at hcompile
      obtain ⟨executed, hexecute, hroutine'⟩ := exists_tells_execute language v query
      refine ⟨_, hcompile.bind hexecute, fun r hr => ?_⟩
      rcases List.mem_append.1 hr with h | h
      · exact hroutine r h
      · exact hroutine' r h

end

theorem outcome_compile :
    (runLogged (Service.compile ⟨language⟩ v s)).2 =
      (language.compile v s).mapError QueryError.literal := by
  obtain ⟨records, htells, -⟩ := exists_tells_compile language v s
  rw [htells.runLogged_eq]

section

variable [Limits]

theorem outcome_execute (query : Text) :
    (runLogged (Service.execute ⟨language⟩ v query)).2 =
      ((language.search query v).mapError QueryError.search).map (QueryResult.mk query) := by
  obtain ⟨records, htells, -⟩ := exists_tells_execute language v query
  rw [htells.runLogged_eq]

end

variable {language v s}

section

variable [Limits]

/-- What is logged does not count for the outcome of a run. -/
theorem outcome_run {query : Text} (h : language.compile v s = .ok query) :
    (runLogged (Service.run ⟨language⟩ v s)).2 =
      ((language.search query v).mapError QueryError.search).map (QueryResult.mk query) := by
  obtain ⟨records, htells, -⟩ := exists_tells_run language v s
  rw [htells.runLogged_eq, h]
  rfl

/-- A run that yields something has a query. -/
theorem exists_compile_of_run {r : QueryResult}
    (h : (runLogged (Service.run ⟨language⟩ v s)).2 = .ok r) :
    ∃ query, language.compile v s = .ok query := by
  obtain ⟨records, htells, -⟩ := exists_tells_run language v s
  rw [htells.runLogged_eq] at h
  obtain ⟨query, hquery, -⟩ := exists_of_bind_eq_ok h
  exact ⟨query, eq_ok_of_mapError_eq_ok hquery⟩

end

end

/-! ## Runs -/

section

variable {s : Spec} {d : Document} {query : Text}

section

variable [Limits]

/-- What a search finds with the query of a valid specification is what the stages yield. -/
theorem search_eq_value (hs : s.Valid)
    (hquery : Language.jmesPath.compile (ofDocument d) s = .ok query) :
    ∃ e, s.head? d.isArray = some e ∧
      Language.jmesPath.search query (ofDocument d) =
        (s.value d.isArray (ofDocument d)).mapError .eval := by
  have hcompile : s.query d.isArray = .ok query := by
    rw [← isArray_ofDocument]
    exact hquery
  obtain ⟨e, htree, hparse⟩ := exists_parse_query hs hcompile
  obtain ⟨trees, htrees, -⟩ :=
    Option.bind_eq_some_iff.1 (show s.tree? d.isArray = some e from htree)
  obtain ⟨head, hhead, -⟩ := Option.bind_eq_some_iff.1 htrees
  refine ⟨head, hhead, ?_⟩
  change Expr.search query (ofDocument d) = _
  rw [Expr.search, hparse]
  dsimp only
  rw [eval_tree htree]

/-- A search with the query of a valid specification fails where the stages fail, and nowhere else.
-/
theorem search_cases (hs : s.Valid)
    (hquery : Language.jmesPath.compile (ofDocument d) s = .ok query) :
    (s.FilterFails d ∧ ∃ c left right, Language.jmesPath.search query (ofDocument d) =
      .error (.eval (.unordered c left right))) ∨
    ((s.SortFails d ∨ s.SortsNoArray d) ∧
      Language.jmesPath.search query (ofDocument d) = .error (.eval .argumentKind)) ∨
    (¬s.FilterFails d ∧ ¬s.SortFails d ∧ ¬s.SortsNoArray d ∧
      ∃ w, Language.jmesPath.search query (ofDocument d) = .ok w ∧
        ((∀ items, d = .array items → s.NaNFree items) → w = ofDocument (s.meaning d))) := by
  obtain ⟨head, hhead, hsearch⟩ := search_eq_value hs hquery
  rw [hsearch]
  cases hd : d.isArray with
  | true =>
      obtain ⟨items, rfl⟩ : ∃ items, d = .array items := by
        cases d with
        | array items => exact ⟨items, rfl⟩
        | _ => cases hd
      rw [hd] at hhead
      rw [Spec.filterFails_array_iff, Spec.sortFails_array_iff]
      rcases value_array hhead items with ⟨hclash, c, left, right, hvalue⟩ |
        ⟨hclash, hsort, hvalue⟩ | ⟨hclash, hsort, w, hvalue, hmeaning⟩
      · exact .inl ⟨hclash, c, left, right, by rw [hvalue]; rfl⟩
      · exact .inr (.inl ⟨.inl ⟨hclash, hsort⟩, by rw [hvalue]; rfl⟩)
      · exact .inr (.inr ⟨hclash, fun h => hsort h.2, Spec.not_sortsNoArray_array, w,
          by rw [hvalue]; rfl, fun hnan => hmeaning (hnan items rfl)⟩)
  | false =>
      rw [hd] at hhead
      rcases value_of_not_array hhead hd with ⟨hsort, hvalue⟩ | ⟨hsort, hvalue⟩
      · exact .inr (.inl ⟨.inr ⟨hd, hsort⟩, by rw [hvalue]; rfl⟩)
      · exact .inr (.inr ⟨Spec.not_filterFails_of_not_array hd, Spec.not_sortFails_of_not_array hd,
          fun h => h.2 hsort, _, by rw [hvalue]; rfl, fun _ => rfl⟩)

/-- A run fails at no document that its stages do not fail at. -/
theorem outcome_cases (hs : s.Valid)
    (hquery : Language.jmesPath.compile (ofDocument d) s = .ok query) :
    (s.FilterFails d ∧ ∃ c left right,
      (runLogged (Service.run ⟨Language.jmesPath⟩ (ofDocument d) s)).2 =
        .error (.search (.eval (.unordered c left right)))) ∨
    ((s.SortFails d ∨ s.SortsNoArray d) ∧
      (runLogged (Service.run ⟨Language.jmesPath⟩ (ofDocument d) s)).2 =
        .error (.search (.eval .argumentKind))) ∨
    (¬s.FilterFails d ∧ ¬s.SortFails d ∧ ¬s.SortsNoArray d ∧ ∃ w,
      (runLogged (Service.run ⟨Language.jmesPath⟩ (ofDocument d) s)).2 = .ok ⟨query, w⟩ ∧
        ((∀ items, d = .array items → s.NaNFree items) → w = ofDocument (s.meaning d))) := by
  rw [outcome_run hquery]
  rcases search_cases hs hquery with ⟨hfilter, c, left, right, herror⟩ | ⟨hsort, herror⟩ |
    ⟨hfilter, hsort, hnoArray, w, hok, hmeaning⟩
  · exact .inl ⟨hfilter, c, left, right, by rw [herror]; rfl⟩
  · exact .inr (.inl ⟨hsort, by rw [herror]; rfl⟩)
  · exact .inr (.inr ⟨hfilter, hsort, hnoArray, w, by rw [hok]; rfl, hmeaning⟩)

end

/-- A filter that fails is the only stage that fails. -/
theorem not_sortFails_of_filterFails (h : s.FilterFails d) :
    ¬(s.SortFails d ∨ s.SortsNoArray d) := by
  obtain ⟨items, rfl, hclash⟩ := h
  rintro (hsort | hnoArray)
  · exact (Spec.sortFails_array_iff.1 hsort).1 hclash
  · exact Spec.not_sortsNoArray_array hnoArray

section

variable [Limits]

/-- **The meaning of a specification.** What a run yields is what the specification asks for, in
terms of lists, where no key that items are sorted by is off the number line. -/
theorem run_value {key : Text} {raw : Option Config.Tree} {r : QueryResult}
    (hs : Config.readSpec key raw = .ok s)
    (hrun : (runLogged (Service.run ⟨Language.jmesPath⟩ (ofDocument d) s)).2 = .ok r)
    (hnan : ∀ items, d = .array items → s.NaNFree items) :
    r.value = ofDocument (s.meaning d) := by
  obtain ⟨query, hquery⟩ := exists_compile_of_run hrun
  rcases outcome_cases (Config.readSpec_valid hs) hquery with
    ⟨-, c, left, right, herror⟩ | ⟨-, herror⟩ | ⟨-, -, -, w, hok, hmeaning⟩
  · rw [herror] at hrun
    cases hrun
  · rw [herror] at hrun
    cases hrun
  · rw [hok] at hrun
    obtain rfl := Except.ok.inj hrun
    exact hmeaning hnan

/-- A setting that asks for the names of adults, the last in the alphabet first. -/
def adultsSetting : Config.Tree :=
  .mapping
    [(.text "filter", .mapping [(.text "path", .list [.text "age"]), (.text "relation", .text ">="),
      (.text "value", .text "18")]),
    (.text "sort",
      .mapping [(.text "path", .list [.text "name"]), (.text "direction", .text "desc")]),
    (.text "projection", .mapping [(.text "paths", .list [.list [.text "name"]])])]

/-- The specification that the setting spells out. -/
def adultsSpec : Spec where
  filter := some ⟨["age"], ">=", .text "18"⟩
  sort := some ⟨["name"], "desc"⟩
  projection := some ⟨[["name"]]⟩

/-- The query of the specification. -/
def adultsQuery : Text := "[? age >= \x6018\x60] | reverse(sort_by(@, &name)) | [*].name"

/-- The entry of a person. -/
def person (name : Document) (age : Int) : Document :=
  .object [("name", name), ("age", .number (.int age))]

/-- Two adults and one who is none, after an item that is null. -/
def people : List Document :=
  [.null, person (.text "Ann") 17, person (.text "Bo") 18, person (.text "Cy") 40]

end

theorem kept_people :
    adultsSpec.kept people = [person (.text "Bo") 18, person (.text "Cy") 40] := by
  have hann : Filter.keeps ⟨["age"], ">=", .text "18"⟩ (person (.text "Ann") 17) = false := by
    decide +kernel
  have hbo : Filter.keeps ⟨["age"], ">=", .text "18"⟩ (person (.text "Bo") 18) = true := by
    decide +kernel
  have hcy : Filter.keeps ⟨["age"], ">=", .text "18"⟩ (person (.text "Cy") 40) = true := by
    decide +kernel
  change List.filter (Filter.keeps ⟨["age"], ">=", .text "18"⟩)
    [person (.text "Ann") 17, person (.text "Bo") 18, person (.text "Cy") 40] = _
  rw [List.filter_cons_of_neg (by rw [hann]; decide), List.filter_cons_of_pos hbo,
    List.filter_cons_of_pos hcy, List.filter_nil]

theorem meaning_people :
    adultsSpec.meaning (.array people) = .array [.text "Cy", .text "Bo"] := by
  have hascending : SortKey.ascending ["name"] [person (.text "Bo") 18, person (.text "Cy") 40] =
      [person (.text "Bo") 18, person (.text "Cy") 40] :=
    List.mergeSort_of_pairwise (List.pairwise_pair.2 (by decide))
  have harranged : adultsSpec.arranged people =
      [person (.text "Cy") 40, person (.text "Bo") 18] := by
    change SortKey.sorted ⟨["name"], "desc"⟩ (adultsSpec.kept people) = _
    rw [kept_people, SortKey.sorted, if_pos rfl, hascending]
    rfl
  change Json.Value.array (Projection.project ⟨[["name"]]⟩ (adultsSpec.arranged people)) = _
  rw [harranged]
  rfl

theorem run_value_adults :
    letI := Limits.ordinary
    Config.readSpec "query" (some adultsSetting) = .ok adultsSpec ∧
      ∃ r, (runLogged (Service.run ⟨Language.jmesPath⟩ (ofDocument (.array people)) adultsSpec)).2 =
          .ok r ∧
        r.value = ofDocument (.array [.text "Cy", .text "Bo"]) := by
  let limits := Limits.ordinary
  have hs : Config.readSpec "query" (some adultsSetting) = .ok adultsSpec := rfl
  have hquery : Language.jmesPath.compile (ofDocument (.array people)) adultsSpec =
      .ok adultsQuery := by
    decide +kernel
  have hnan : ∀ items, Json.Value.array people = .array items → adultsSpec.NaNFree items := by
    intro items hitems o ho
    cases hitems
    cases ho
    rw [kept_people]
    decide
  rcases outcome_cases (Config.readSpec_valid hs) hquery with
    ⟨⟨items, hitems, f, hf, hclash⟩, -⟩ | ⟨hsort, -⟩ | ⟨-, -, -, w, hrun, -⟩
  · cases hitems
    cases hf
    exact absurd hclash (by decide +kernel)
  · rcases hsort with ⟨items, hitems, -, o, ho, -, -, htexts⟩ | ⟨harray, -⟩
    · cases hitems
      cases ho
      rw [kept_people] at htexts
      exact absurd (by decide) htexts
    · cases harray
  · refine ⟨hs, ⟨adultsQuery, w⟩, hrun, ?_⟩
    rw [run_value hs hrun hnan, meaning_people]

section

variable [Limits]

/-- **When a run fails.** A run of a specification that compiles fails where the filter clashes with
an item, where the items that reach the sort cannot be sorted, and where there is a sort and no
array; it fails nowhere else, and only by what it compares or by what it sorts. -/
theorem run_error_iff {key : Text} {raw : Option Config.Tree}
    (hs : Config.readSpec key raw = .ok s)
    (hquery : Language.jmesPath.compile (ofDocument d) s = .ok query) :
    ((∃ cause, (runLogged (Service.run ⟨Language.jmesPath⟩ (ofDocument d) s)).2 = .error cause) ↔
      s.FilterFails d ∨ s.SortFails d ∨ s.SortsNoArray d) ∧
    (s.FilterFails d → ∃ c left right,
      (runLogged (Service.run ⟨Language.jmesPath⟩ (ofDocument d) s)).2 =
        .error (.search (.eval (.unordered c left right)))) ∧
    (s.SortFails d ∨ s.SortsNoArray d →
      (runLogged (Service.run ⟨Language.jmesPath⟩ (ofDocument d) s)).2 =
        .error (.search (.eval .argumentKind))) := by
  -- the cases exclude each other, so each fixes the error
  have hnotSort : s.FilterFails d → ¬(s.SortFails d ∨ s.SortsNoArray d) :=
    not_sortFails_of_filterFails
  rcases outcome_cases (Config.readSpec_valid hs) hquery with
    ⟨hfilter, c, left, right, herror⟩ | ⟨hsort, herror⟩ | ⟨hfilter, hsort, hnoArray, w, hok, -⟩
  · exact ⟨⟨fun _ => .inl hfilter, fun _ => ⟨_, herror⟩⟩, fun _ => ⟨c, left, right, herror⟩,
      fun h => absurd h (hnotSort hfilter)⟩
  · exact ⟨⟨fun _ => .inr hsort, fun _ => ⟨_, herror⟩⟩, fun h => absurd hsort (hnotSort h),
      fun _ => herror⟩
  · have hnone : ¬(s.FilterFails d ∨ s.SortFails d ∨ s.SortsNoArray d) := by
      rintro (h | h | h)
      · exact hfilter h
      · exact hsort h
      · exact hnoArray h
    refine ⟨⟨fun ⟨cause, herror⟩ => ?_, fun h => absurd h hnone⟩, fun h => absurd h hfilter,
      fun h => absurd (.inr h) hnone⟩
    rw [hok] at herror
    cases herror

/-- Adults of whom one has a name that is no text. -/
def strangers : List Document := [person (.text "Di") 30, person (.bool true) 20]

end

theorem run_error_iff_strangers :
    letI := Limits.ordinary
    Config.readSpec "query" (some adultsSetting) = .ok adultsSpec ∧
      Language.jmesPath.compile (ofDocument (.array strangers)) adultsSpec = .ok adultsQuery ∧
      adultsSpec.SortFails (.array strangers) ∧
      (runLogged (Service.run ⟨Language.jmesPath⟩ (ofDocument (.array strangers)) adultsSpec)).2 =
        .error (.search (.eval .argumentKind)) := by
  let limits := Limits.ordinary
  have hs : Config.readSpec "query" (some adultsSetting) = .ok adultsSpec := rfl
  have hquery : Language.jmesPath.compile (ofDocument (.array strangers)) adultsSpec =
      .ok adultsQuery := by
    decide +kernel
  have hdi : Filter.keeps ⟨["age"], ">=", .text "18"⟩ (person (.text "Di") 30) = true := by
    decide +kernel
  have htrue : Filter.keeps ⟨["age"], ">=", .text "18"⟩ (person (.bool true) 20) = true := by
    decide +kernel
  have hkept : adultsSpec.kept strangers = strangers := by
    change List.filter (Filter.keeps ⟨["age"], ">=", .text "18"⟩)
      [person (.text "Di") 30, person (.bool true) 20] = _
    rw [List.filter_cons_of_pos hdi, List.filter_cons_of_pos htrue, List.filter_nil, strangers]
  have hfails : adultsSpec.SortFails (.array strangers) := by
    refine ⟨strangers, rfl, ?_, ⟨["name"], "desc"⟩, rfl, ?_, ?_, ?_⟩
    · rintro ⟨f, hf, hclash⟩
      cases hf
      exact absurd hclash (by decide +kernel)
    · rw [hkept]
      exact List.cons_ne_nil _ _
    · rw [hkept]
      decide
    · rw [hkept]
      decide
  exact ⟨hs, hquery, hfails, (run_error_iff hs hquery).2.2 (.inl hfails)⟩

/-! ## No stages -/

/-- An array without its null items is the array itself if there are none. -/
theorem ofDocument_dropNulls_iff (items : List Document) :
    ofDocument (.array (Json.Value.dropNulls items)) = ofDocument (.array items) ↔
      .null ∉ items := by
  rw [ofDocument_array, ofDocument_array]
  constructor
  · intro h hnull
    have hlength := congrArg List.length (Json.Value.array.inj h)
    rw [List.length_map, List.length_map] at hlength
    have hall := List.length_filter_eq_length_iff.1 hlength _ hnull
    cases hall
  · intro hnull
    have hkeep : Json.Value.dropNulls items = items := by
      refine List.filter_eq_self.2 fun x hx => ?_
      cases x with
      | null => exact absurd hx hnull
      | _ => rfl
    rw [hkeep]

section

variable [Limits]

/-- **A run without stages** does not always yield the document: of an array it drops the items that
are null, so the document comes back exactly where there are none. -/
theorem run_identity (d : Document) :
    ∃ r, (runLogged (Service.run ⟨Language.jmesPath⟩ (ofDocument d) Spec.identity)).2 = .ok r ∧
      (∀ items, d = .array items → r.value = ofDocument (.array (Json.Value.dropNulls items))) ∧
      (d.isArray = false → r.value = ofDocument d) ∧
      (r.value = ofDocument d ↔ ∀ items, d = .array items → .null ∉ items) := by
  have hs : Spec.identity.Valid :=
    ⟨fun _ h => (nomatch h), fun _ h => (nomatch h), fun _ h => (nomatch h)⟩
  obtain ⟨query, hquery⟩ : ∃ query,
      Language.jmesPath.compile (ofDocument d) Spec.identity = .ok query := by
    change ∃ query, Spec.query (ofDocument d).isArray Spec.identity = .ok query
    cases (ofDocument d).isArray <;> exact ⟨_, rfl⟩
  rcases outcome_cases hs hquery with
    ⟨⟨_, _, f, hf, _⟩, -⟩ | ⟨⟨_, _, _, o, ho, _⟩ | ⟨_, ho⟩, -⟩ | ⟨-, -, -, w, hrun, hmeaning⟩
  · cases hf
  · cases ho
  · exact absurd rfl ho
  · have hw : w = ofDocument (Spec.identity.meaning d) := hmeaning fun _ _ o ho => nomatch ho
    refine ⟨⟨query, w⟩, hrun, ?_, ?_, ?_⟩
    · rintro items rfl
      exact hw
    · intro hd
      rw [hw, meaning_of_not_array hd]
      rfl
    · change w = ofDocument d ↔ _
      rw [hw]
      cases hd : d.isArray with
      | false =>
          rw [meaning_of_not_array hd]
          refine iff_of_true rfl ?_
          rintro items rfl
          cases hd
      | true =>
          cases d with
          | array items =>
              refine (ofDocument_dropNulls_iff items).trans
                ⟨fun h items' hitems => ?_, fun h => h items rfl⟩
              cases hitems
              exact h
          | _ => cases hd

end

end

end Winnow
