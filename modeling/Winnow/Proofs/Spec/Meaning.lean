import Winnow.Proofs.Spec.Tree

/-!
# The meaning of a specification

What a specification asks of a document, in terms of lists: which items are kept, in which order
they come, and what is taken from each.

* `Value.atPath` — the value that a path leads to.
* `Comparison.holds`, `Comparison.clashes` — whether a value stands in a comparison to a scalar, and
  whether the two cannot be compared.
* `Filter.keeps`, `SortKey.sorted`, `Projection.project` — the stages.
* `Spec.meaning` — the result of all stages.
* `Spec.FilterFails`, `Spec.SortFails`, `Spec.SortsNoArray` — when there is no result.
* `perm_ascending`, `pairwise_ascending`, `sublist_ascending` — what comes out of a sort.
-/

namespace Winnow

open Winnow.Json (Document Entries)

/-! ## Values in documents -/

namespace Json.Value

/-- The value at a key; null where there is no object or no such key. -/
def atKey (name : Text) : Document → Document
  | .object entries => (Entries.get? entries name).getD .null
  | _ => .null

/-- The value that a path leads to. -/
def atPath (d : Document) (path : FieldPath) : Document :=
  path.foldl (fun d name => atKey name d) d

/-- Whether a document is a number. -/
def isNumber : Document → Bool
  | .number _ => true
  | _ => false

/-- Whether a document is a text. -/
def isText : Document → Bool
  | .text _ => true
  | _ => false

/-- Whether a document is a number that is not on the number line. -/
def isNaN : Document → Bool
  | .number n => n.point?.isNone
  | _ => false

/-- The documents that are not null. -/
def dropNulls (items : List Document) : List Document := items.filter fun d => !d.isNull

end Json.Value

open Winnow.Json.Value (dropNulls)

/-! ## Comparison with a scalar -/

/-- Equality of two values of one kind; any other two values are unequal. -/
def Scalar.equals : Document → Scalar → Bool
  | .null, .null => true
  | .bool a, .bool b => a == b
  | .number m, .number n => m.eq n
  | .text s, .text t => s == t
  | _, _ => false

/-- Whether two numbers, or two texts, stand in an order; no other two values do. -/
def Scalar.ordered (numbers : Number → Number → Bool) (texts : Text → Text → Bool) :
    Document → Scalar → Bool
  | .number m, .number n => numbers m n
  | .text s, .text t => texts s t
  | _, _ => false

namespace Comparison

/-- Whether a value stands in a comparison to a scalar. Texts are compared by code points. -/
def holds : Comparison → Document → Scalar → Bool
  | .eq => Scalar.equals
  | .ne => fun x v => !Scalar.equals x v
  | .lt => Scalar.ordered (fun m n => m.lt n) (fun s t => s < t)
  | .le => Scalar.ordered (fun m n => m.le n) (fun s t => s ≤ t)
  | .gt => Scalar.ordered (fun m n => n.lt m) (fun s t => t < s)
  | .ge => Scalar.ordered (fun m n => n.le m) (fun s t => t ≤ s)

/-- Whether a comparison asks for an order. -/
def isOrder : Comparison → Bool
  | .eq => false
  | .ne => false
  | _ => true

/-- Whether an order is asked for between a number and a text, which have none. -/
def clashes (c : Comparison) : Document → Scalar → Bool
  | .number _, .text _ => c.isOrder
  | .text _, .number _ => c.isOrder
  | _, _ => false

end Comparison

/-! ## Stages -/

/-- Whether a comparison with the value of a filter has an outcome at an item. A text stands for the
scalar that it spells. -/
def Filter.test (f : Filter) (outcome : Comparison → Document → Scalar → Bool) (x : Document) :
    Bool :=
  match Comparison.ofMark? f.relation, f.value.operand with
  | some c, .ok v => outcome c (x.atPath f.path) v
  | _, _ => false

/-- Whether a filter keeps an item. -/
def Filter.keeps (f : Filter) : Document → Bool := f.test Comparison.holds

/-- Whether a filter cannot compare an item. -/
def Filter.clashes (f : Filter) : Document → Bool := f.test Comparison.clashes

/-- Whether a key comes before another: two numbers or two texts in their order. -/
def SortKey.before : Document → Document → Bool
  | .number m, .number n => m.lt n
  | .text s, .text t => s < t
  | _, _ => false

/-- Items in the ascending order of their values at a path; equals stay as they are. -/
def SortKey.ascending (path : FieldPath) (items : List Document) : List Document :=
  items.mergeSort fun x y => !SortKey.before (y.atPath path) (x.atPath path)

/-- Items in the order of a sort: the ascending one, or its reverse. -/
def SortKey.sorted (o : SortKey) (items : List Document) : List Document :=
  if o.direction = "desc" then (SortKey.ascending o.path items).reverse
  else SortKey.ascending o.path items

/-- What a projection takes from an item: the value at a single path, or an object with the values
at several. -/
def Projection.take (p : Projection) (x : Document) : Document :=
  match p.paths with
  | [path] => x.atPath path
  | paths => .object (Entries.ofPairs (paths.map fun path => (pathKey path, x.atPath path)))

/-- What a projection takes from the items that have it. -/
def Projection.project (p : Projection) (items : List Document) : List Document :=
  dropNulls (items.map p.take)

/-! ## All stages -/

namespace Spec

/-- The items of an array that reach the stages after the filter. -/
def kept (s : Spec) (items : List Document) : List Document :=
  match s.filter with
  | some f => (dropNulls items).filter f.keeps
  | none => dropNulls items

/-- The items of an array in the order of the sort. -/
def arranged (s : Spec) (items : List Document) : List Document :=
  match s.sort with
  | some o => o.sorted (s.kept items)
  | none => s.kept items

/-- The result of a specification at a document. Of what is no array there are no items. -/
def meaning (s : Spec) : Document → Document
  | .array items =>
      .array (match s.projection with
        | some p => p.project (s.arranged items)
        | none => s.arranged items)
  | d => if s.filter.isSome || s.projection.isSome then .null else d

end Spec

/-! ## When a specification fails -/

namespace Spec

/-- The filter of a specification cannot compare one of the items. -/
def Clashes (s : Spec) (items : List Document) : Prop :=
  ∃ f, s.filter = some f ∧ ∃ x ∈ items, f.clashes x = true

/-- There are items that reach the sort of a specification, and their keys are neither all numbers
nor all texts. -/
def Unsortable (s : Spec) (items : List Document) : Prop :=
  ∃ o, s.sort = some o ∧ s.kept items ≠ [] ∧
    ¬(∀ x ∈ s.kept items, (x.atPath o.path).isNumber = true) ∧
    ¬∀ x ∈ s.kept items, (x.atPath o.path).isText = true

/-- No key that items are sorted by is a number that is not on the number line. -/
def NaNFree (s : Spec) (items : List Document) : Prop :=
  ∀ o, s.sort = some o → ∀ x ∈ s.kept items, (x.atPath o.path).isNaN = false

/-- The filter of a specification cannot compare an item of the array that a document is. -/
def FilterFails (s : Spec) (d : Document) : Prop :=
  ∃ items, d = .array items ∧ s.Clashes items

/-- The filter of a specification can compare all items of the array that a document is, but the
sort cannot sort those that are kept. -/
def SortFails (s : Spec) (d : Document) : Prop :=
  ∃ items, d = .array items ∧ ¬s.Clashes items ∧ s.Unsortable items

/-- There is something to sort by, but no array. -/
def SortsNoArray (s : Spec) (d : Document) : Prop :=
  d.isArray = false ∧ s.sort ≠ none

section

variable {s : Spec} {items : List Document} {d : Document}

theorem filterFails_array_iff : s.FilterFails (.array items) ↔ s.Clashes items := by
  simp [FilterFails]

theorem sortFails_array_iff :
    s.SortFails (.array items) ↔ ¬s.Clashes items ∧ s.Unsortable items := by
  simp [SortFails]

theorem not_sortsNoArray_array : ¬s.SortsNoArray (.array items) := fun h => nomatch h.1

theorem not_filterFails_of_not_array (hd : d.isArray = false) : ¬s.FilterFails d := by
  rintro ⟨items, rfl, -⟩
  cases hd

theorem not_sortFails_of_not_array (hd : d.isArray = false) : ¬s.SortFails d := by
  rintro ⟨items, rfl, -⟩
  cases hd

end

end Spec

/-! ## What comes out of a sort -/

section

variable {path : FieldPath} {items : List Document}

/-- The keys of items are all numbers, or all are texts. -/
def SortKey.Sortable (path : FieldPath) (items : List Document) : Prop :=
  (∀ x ∈ items, (x.atPath path).isNumber = true) ∨ ∀ x ∈ items, (x.atPath path).isText = true

theorem exists_number {d : Document} (h : d.isNumber = true) (hnan : d.isNaN = false) :
    ∃ n p, d = .number n ∧ n.point? = some p := by
  cases d with
  | number n =>
      cases hpoint : n.point? with
      | none =>
          rw [Json.Value.isNaN, hpoint] at hnan
          cases hnan
      | some p => exact ⟨n, p, rfl, hpoint⟩
  | _ => cases h

theorem exists_text {d : Document} (h : d.isText = true) : ∃ s, d = .text s := by
  cases d with
  | text s => exact ⟨s, rfl⟩
  | _ => cases h

theorem Point.le_trans {p q r : Point} (h : p.le q = true) (h' : q.le r = true) :
    p.le r = true := by
  cases p <;> cases q <;> cases r <;> simp_all [Point.le]
  exact Dyadic.le_trans h h'

theorem Point.le_total (p q : Point) : (p.le q || q.le p) = true := by
  cases p <;> cases q <;> simp [Point.le]
  exact Dyadic.le_total _ _

/-- Keys of one kind, all in their places, are ordered as all things are by some total order. -/
theorem SortKey.Sortable.exists_order (h : SortKey.Sortable path items)
    (hnan : ∀ x ∈ items, (x.atPath path).isNaN = false) :
    ∃ le : Document → Document → Bool,
      (∀ x y z, le x y = true → le y z = true → le x z = true) ∧
      (∀ x y, (le x y || le y x) = true) ∧
      ∀ x ∈ items, ∀ y ∈ items, (!SortKey.before (y.atPath path) (x.atPath path)) = le x y := by
  -- keys of other kinds do not occur, so it does not matter where the order puts them
  rcases h with hnumbers | htexts
  · let place : Document → Point := fun x =>
      match x.atPath path with
      | .number n => n.point?.getD .below
      | _ => .below
    refine ⟨fun x y => (place x).le (place y), fun _ _ _ => Point.le_trans,
      fun _ _ => Point.le_total _ _, fun x hx y hy => ?_⟩
    obtain ⟨m, p, hm, hp⟩ := exists_number (hnumbers x hx) (hnan x hx)
    obtain ⟨n, q, hn, hq⟩ := exists_number (hnumbers y hy) (hnan y hy)
    simp only [place, hm, hn, hp, hq, Option.getD_some, SortKey.before, Number.lt, Number.compareBy,
      Point.lt, Bool.not_not]
  · let word : Document → Text := fun x =>
      match x.atPath path with
      | .text s => s
      | _ => ""
    refine ⟨fun x y => decide (word x ≤ word y), fun x y z hxy hyz => ?_, fun x y => ?_,
      fun x hx y hy => ?_⟩
    · exact decide_eq_true ((of_decide_eq_true hxy).trans (of_decide_eq_true hyz))
    · simpa using le_total (word x) (word y)
    · obtain ⟨s, hs⟩ := exists_text (htexts x hx)
      obtain ⟨t, ht⟩ := exists_text (htexts y hy)
      simp only [word, hs, ht, SortKey.before]
      rw [← decide_not, decide_eq_decide, not_lt]

theorem mergeSort_congr {α : Type} {r s : α → α → Bool} {xs : List α}
    (h : ∀ x ∈ xs, ∀ y ∈ xs, r x y = s x y) : xs.mergeSort r = xs.mergeSort s := by
  have := @List.map_mergeSort α α r s id xs h
  simpa using this

/-- A sort loses nothing and makes nothing up. -/
theorem SortKey.perm_ascending (path : FieldPath) (items : List Document) :
    (SortKey.ascending path items).Perm items :=
  List.mergeSort_perm _ _

/-- Items come out in ascending order. -/
theorem SortKey.pairwise_ascending (h : SortKey.Sortable path items)
    (hnan : ∀ x ∈ items, (x.atPath path).isNaN = false) :
    (SortKey.ascending path items).Pairwise fun x y =>
      SortKey.before (y.atPath path) (x.atPath path) = false := by
  obtain ⟨le, htrans, htotal, hle⟩ := h.exists_order hnan
  have hsorted := List.pairwise_mergeSort htrans htotal items
  rw [← mergeSort_congr hle] at hsorted
  refine List.Pairwise.imp_of_mem (fun {x y} hx hy hxy => ?_) hsorted
  rw [← hle x (List.mem_mergeSort.1 hx) y (List.mem_mergeSort.1 hy)] at hxy
  simpa using hxy

/-- Items that are in order already, such as equals, stay in their order. -/
theorem SortKey.sublist_ascending (h : SortKey.Sortable path items)
    (hnan : ∀ x ∈ items, (x.atPath path).isNaN = false) {chosen : List Document}
    (hordered : chosen.Pairwise fun x y =>
      SortKey.before (y.atPath path) (x.atPath path) = false)
    (hsub : chosen.Sublist items) : chosen.Sublist (SortKey.ascending path items) := by
  obtain ⟨le, htrans, htotal, hle⟩ := h.exists_order hnan
  rw [SortKey.ascending, mergeSort_congr hle]
  refine List.sublist_mergeSort htrans htotal ?_ hsub
  refine List.Pairwise.imp_of_mem (fun {x y} hx hy hxy => ?_) hordered
  rw [← hle x (hsub.subset hx) y (hsub.subset hy), hxy]
  rfl

end

end Winnow
