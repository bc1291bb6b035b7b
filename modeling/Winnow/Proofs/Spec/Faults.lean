import Winnow.Proofs.Spec.Run

/-!
# Errors that are not of the query language

A search for what a specification asks fails by an error of the query language, with one exception:
a filter that asks for an order between a number and a text fails by the error of the comparison
itself.

* `SearchError.isQueryError` — the errors of the query language.
* `compare_of_clashes`, `selectItems_of_clashes` — the error of the first item that a filter cannot
  compare.
* `search_of_find?` — a search with such a filter.
* `search_fault_iff` — when a search fails by anything else than an error of the query language.
-/

namespace Winnow

open Winnow.Json (Document)
open Winnow.Expr.Item (ofDocument)

/-! ## Errors of the query language -/

namespace Expr

/-- Whether the query language itself tells that a text is no expression. -/
def ParseError.isQueryError : ParseError → Bool
  | .empty | .lexical | .unexpected | .incomplete => true
  | .tooLong _ | .tooDeep _ | .noRoom => false

/-- Whether the query language itself tells that an expression has no value: it checks how functions
are used, and nothing else. -/
def EvalError.isQueryError : EvalError → Bool
  | .unknownFunction | .arity | .noArguments | .argumentKind => true
  | _ => false

/-- Whether an error of a search is one of the query language. -/
def SearchError.isQueryError : SearchError → Bool
  | .parse cause => cause.isQueryError
  | .eval cause => cause.isQueryError

end Expr

/-! ## The first item that clashes -/

/-- A comparison that clashes tells the kinds of both sides. -/
theorem compare_of_clashes {c : Comparison} {x : Document} {v : Scalar}
    (h : c.clashes x v = true) :
    Expr.Item.compare c (ofDocument x) (ofDocument v.written) =
      .error (.unordered c x.kindName v.written.kindName) := by
  cases x with
  | number m =>
      cases v with
      | text t =>
          cases c with
          | eq => cases h
          | ne => cases h
          | _ => cases m <;> rfl
      | _ => cases h
  | text s =>
      cases v with
      | number n =>
          cases c with
          | eq => cases h
          | ne => cases h
          | _ => cases n <;> rfl
      | _ => cases h
  | _ => cases h

section

variable {c : Comparison} {path : FieldPath} {v : Scalar} {items : List Document} {x : Document}

theorem chooseItem_of_clashes (h : c.clashes (x.atPath path) v = true) :
    Expr.chooseItem c path (ofDocument v.written) (ofDocument x) =
      .error (.unordered c (x.atPath path).kindName v.written.kindName) := by
  rw [Expr.chooseItem, fieldsOf_ofDocument, compare_of_clashes h]
  rfl

/-- A filter goes through the items in order, so the first that it cannot compare tells the error.
-/
theorem selectItems_of_clashes
    (h : items.find? (fun x => c.clashes (x.atPath path) v) = some x) :
    Expr.selectItems c path (ofDocument v.written) (ofDocument (.array items)) =
      .error (.unordered c (x.atPath path).kindName v.written.kindName) := by
  obtain ⟨hclash, before, after, rfl, hbefore⟩ := List.find?_eq_some_iff_append.1 h
  have hchosen : (before.map ofDocument).mapM (Expr.chooseItem c path (ofDocument v.written)) =
      .ok ((before.map fun x => if c.holds (x.atPath path) v then x else .null).map
        ofDocument) := by
    rcases mapM_chooseItem c path v before with ⟨⟨y, hy, hclash'⟩, -⟩ | ⟨-, h'⟩
    · simpa [hclash'] using hbefore y hy
    · exact h'
  rw [ofDocument_array, Expr.selectItems, List.map_append, List.map_cons, List.mapM_append, hchosen,
    List.mapM_cons, chooseItem_of_clashes hclash]
  rfl

end

/-! ## Searches -/

section

variable {s : Spec} {d : Document} {query : Text}

section

variable [Limits]

/-- A search tells the error of the first item that clashes with the filter. -/
theorem search_of_find? {items : List Document} {f : Filter} {c : Comparison} {v : Scalar}
    {x : Document} (hs : s.Valid)
    (hquery : Language.jmesPath.compile (ofDocument (.array items)) s = .ok query)
    (hf : s.filter = some f) (hc : Comparison.ofMark? f.relation = some c)
    (hoperand : f.value.operand = .ok v) (hx : items.find? f.clashes = some x) :
    Language.jmesPath.search query (ofDocument (.array items)) =
      .error (.eval (.unordered c (x.atPath f.path).kindName v.written.kindName)) := by
  have hclashes : f.clashes = fun x => c.clashes (x.atPath f.path) v := by
    funext x
    rw [Filter.clashes, Filter.test, hc, hoperand]
  rw [hclashes] at hx
  obtain ⟨-, -, hsearch⟩ := search_eq_value hs hquery
  rw [hsearch, value_eq_bind, Spec.headValue_filter hf hc hoperand, selectItems_of_clashes hx]
  rfl

/-- **What leaves a search.** A search for what a specification asks fails by an error that is not
one of the query language exactly where the filter fails. Elsewhere it yields a value, or an
argument is of the wrong kind. Where the filter fails, the error tells the comparison and the kinds
at the first item that clashes. -/
theorem search_fault_iff {key : Text} {raw : Option Config.Tree}
    (hs : Config.readSpec key raw = .ok s)
    (hquery : Language.jmesPath.compile (ofDocument d) s = .ok query) :
    ((∃ cause, Language.jmesPath.search query (ofDocument d) = .error cause ∧
      cause.isQueryError = false) ↔ s.FilterFails d) ∧
    (¬s.FilterFails d → (∃ w, Language.jmesPath.search query (ofDocument d) = .ok w) ∨
      Language.jmesPath.search query (ofDocument d) = .error (.eval .argumentKind)) ∧
    ∀ items f c v x, d = .array items → s.filter = some f →
      Comparison.ofMark? f.relation = some c → f.value.operand = .ok v →
      items.find? f.clashes = some x →
      Language.jmesPath.search query (ofDocument d) =
        .error (.eval (.unordered c (x.atPath f.path).kindName v.written.kindName)) := by
  have hvalid := Config.readSpec_valid hs
  refine ⟨?_, ?_, ?_⟩
  · rcases search_cases hvalid hquery with ⟨hfilter, c, left, right, herror⟩ | ⟨hsort, herror⟩ |
      ⟨hfilter, -, -, w, hok, -⟩
    · exact iff_of_true ⟨_, herror, rfl⟩ hfilter
    · refine iff_of_false ?_ fun h => not_sortFails_of_filterFails h hsort
      rintro ⟨cause, hcause, hnot⟩
      rw [herror] at hcause
      cases hcause
      cases hnot
    · refine iff_of_false ?_ hfilter
      rintro ⟨cause, hcause, -⟩
      rw [hok] at hcause
      cases hcause
  · intro hnot
    rcases search_cases hvalid hquery with ⟨hfilter, -⟩ | ⟨-, herror⟩ | ⟨-, -, -, w, hok, -⟩
    · exact absurd hfilter hnot
    · exact .inr herror
    · exact .inl ⟨w, hok⟩
  · rintro items f c v x rfl hf hc hoperand hx
    exact search_of_find? hvalid hquery hf hc hoperand hx

/-- A setting that asks for the items that come before a text. -/
def beforeSetting : Config.Tree :=
  .mapping [(.text "filter", .mapping [(.text "path", .list [.text "a"]),
    (.text "relation", .text "<"), (.text "value", .text "x")])]

/-- The filter of the setting. -/
def beforeFilter : Filter := ⟨["a"], "<", .text "x"⟩

/-- The query of the setting. -/
def beforeQuery : Text := "[? a < \x60\"x\"\x60]"

/-- An array of which one item has a number where the setting asks for a text. -/
def mixedItems : List Document :=
  [.object [("a", .text "w")], .object [("a", .number (.int 1))], .null]

end

theorem search_fault_iff_mixedItems :
    letI := Limits.ordinary
    Config.readSpec "query" (some beforeSetting) = .ok { filter := some beforeFilter } ∧
      Language.jmesPath.compile (ofDocument (.array mixedItems)) { filter := some beforeFilter } =
        .ok beforeQuery ∧
      Language.jmesPath.search beforeQuery (ofDocument (.array mixedItems)) =
        .error (.eval (.unordered .lt "int" "str")) := by
  let limits := Limits.ordinary
  have hs : Config.readSpec "query" (some beforeSetting) =
      .ok { filter := some beforeFilter } := rfl
  have hquery : Language.jmesPath.compile (ofDocument (.array mixedItems))
      { filter := some beforeFilter } = .ok beforeQuery := by
    decide +kernel
  have hfirst : mixedItems.find? beforeFilter.clashes =
      some (.object [("a", .number (.int 1))]) := by
    have htext : ¬beforeFilter.clashes (.object [("a", .text "w")]) = true := by decide
    have hnumber : beforeFilter.clashes (.object [("a", .number (.int 1))]) = true := by decide
    rw [mixedItems, List.find?_cons_of_neg htext, List.find?_cons_of_pos hnumber]
  exact ⟨hs, hquery, (search_fault_iff hs hquery).2.2 mixedItems beforeFilter .lt (.text "x") _
    rfl rfl rfl rfl hfirst⟩

end

end Winnow
