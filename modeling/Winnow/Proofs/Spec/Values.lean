import Winnow.Proofs.Expr.Evaluation
import Winnow.Proofs.Spec.Meaning

/-!
# Stages at documents

At a document the stages of a query do what the specification asks for, in terms of lists.

* `fieldsOf_ofDocument` — a chain leads to the value at the path.
* `compare_ofDocument` — a comparison with a scalar.
* `selectItems_ofDocument`, `ascendingItems_ofDocument`, `projectItems_ofDocument` — filters, sorts
  and projections of the items of an array.
-/

namespace Winnow

open Winnow.Json (Document Entries)
open Winnow.Expr (EvalError Key fieldOf fieldsOf)
open Winnow.Expr.Item (ofDocument)

/-! ## Documents as values -/

theorem ofItems_eq_map (items : List Document) :
    Expr.Item.ofItems items = items.map ofDocument := by
  induction items with
  | nil => rw [Expr.Item.ofItems]; rfl
  | cons x items ih => rw [Expr.Item.ofItems, ih]; rfl

theorem ofDocument_array (items : List Document) :
    ofDocument (.array items) = .array (items.map ofDocument) := by
  rw [ofDocument, ofItems_eq_map]

theorem isNull_ofDocument (d : Document) : (ofDocument d).isNull = d.isNull := by
  cases d with
  | reference x => exact x.elim
  | _ => rw [ofDocument]; rfl

theorem dropNulls_map_ofDocument (items : List Document) :
    Expr.dropNulls (items.map ofDocument) = (Json.Value.dropNulls items).map ofDocument := by
  rw [Expr.dropNulls, List.filter_map, Json.Value.dropNulls]
  congr 2
  funext d
  exact congrArg (!·) (isNull_ofDocument d)

/-! ## Keys -/

theorem get?_ofEntries (entries : Entries Text Empty) (name : Text) :
    Entries.get? (Expr.Item.ofEntries entries) (Key.text name) =
      (Entries.get? entries name).map ofDocument := by
  induction entries with
  | nil => rw [Expr.Item.ofEntries]; rfl
  | cons entry entries ih =>
      obtain ⟨key, x⟩ := entry
      rw [Expr.Item.ofEntries, Entries.get?_cons, Entries.get?_cons, ih]
      change (if name == key then _ else _) = _
      split_ifs <;> rfl

theorem put_ofEntries (entries : Entries Text Empty) (name : Text) (x : Document) :
    Entries.put (Expr.Item.ofEntries entries) (Key.text name) (ofDocument x) =
      Expr.Item.ofEntries (Entries.put entries name x) := by
  induction entries with
  | nil => rfl
  | cons entry entries ih =>
      obtain ⟨key, y⟩ := entry
      rw [Expr.Item.ofEntries, Entries.put, Entries.put, ih]
      change (if key == name then _ else _) = _
      split_ifs <;> rw [Expr.Item.ofEntries]

theorem ofPairs_map_ofDocument (pairs : List (Text × Document)) :
    Entries.ofPairs (pairs.map fun pair => (Key.text pair.1, ofDocument pair.2)) =
      Expr.Item.ofEntries (Entries.ofPairs pairs) := by
  have hfrom : ∀ entries : Entries Text Empty,
      (pairs.map fun pair => (Key.text pair.1, ofDocument pair.2)).foldl
          (fun entries pair => Entries.put entries pair.1 pair.2) (Expr.Item.ofEntries entries) =
        Expr.Item.ofEntries (pairs.foldl (fun entries pair => Entries.put entries pair.1 pair.2)
          entries) := by
    induction pairs with
    | nil => exact fun _ => rfl
    | cons pair pairs ih =>
        intro entries
        rw [List.map_cons, List.foldl_cons, List.foldl_cons, put_ofEntries, ih]
  exact hfrom []

theorem fieldOf_ofDocument (name : Text) (d : Document) :
    fieldOf name (ofDocument d) = ofDocument (d.atKey name) := by
  cases d with
  | object entries =>
      rw [ofDocument, fieldOf, get?_ofEntries, Json.Value.atKey]
      cases Entries.get? entries name <;> rfl
  | reference x => exact x.elim
  | _ => rfl

/-- A chain of lookups leads to the value at the path. -/
theorem fieldsOf_ofDocument (path : FieldPath) (d : Document) :
    fieldsOf path (ofDocument d) = ofDocument (d.atPath path) := by
  induction path generalizing d with
  | nil => rfl
  | cons name path ih =>
      change fieldsOf path (fieldOf name (ofDocument d)) = _
      rw [fieldOf_ofDocument, ih]
      rfl

/-! ## Comparisons -/

/-- What is written has the place of what it is written for. -/
theorem point?_written (n : Number) : n.written.point? = n.point? := by
  have hnan : (Number.float (0.0 / 0.0)).point? = none := by decide +kernel
  cases n with
  | undefined origin => exact hnan
  | _ => rfl

theorem orderNumbers_written (c : Comparison) (m n : Number) :
    Expr.Item.orderNumbers c m n.written = Expr.Item.orderNumbers c m n := by
  cases c <;>
    simp only [Expr.Item.orderNumbers, Number.eq, Number.lt, Number.le, Number.compareBy,
      point?_written]

theorem equal_ofDocument (x : Document) (v : Scalar) :
    Expr.Item.equal (ofDocument x) (ofDocument v.written) = Scalar.equals x v := by
  cases x with
  | reference x => exact x.elim
  | number m =>
      cases v with
      | number n => exact orderNumbers_written .eq m n
      | _ => rfl
  | array items => cases v <;> rw [ofDocument] <;> rfl
  | object entries => cases v <;> rw [ofDocument] <;> rfl
  | _ => cases v <;> rfl

theorem isTrueLike_bool (b : Bool) : Expr.Item.isTrueLike (.bool b) = b := by
  cases b <;> rfl

/-- A comparison that asks for an order asks for that of numbers and of texts. -/
theorem holds_of_isOrder {c : Comparison} (hc : c.isOrder = true) :
    c.holds = Scalar.ordered (Expr.Item.orderNumbers c) (Expr.Item.orderTexts c) := by
  have hle : ∀ s t : Text, decide (s ≤ t) = !decide (t < s) := by
    intro s t
    rw [← decide_not, decide_eq_decide, not_lt]
  cases c with
  | eq => cases hc
  | ne => cases hc
  | le => simp only [Comparison.holds, hle]; rfl
  | ge => simp only [Comparison.holds, hle]; rfl
  | _ => rfl

/-- An order is an error between a number and a text only, and else it says whether the comparison
holds. -/
theorem order_ofDocument {c : Comparison} (hc : c.isOrder = true) (x : Document) (v : Scalar) :
    (c.clashes x v = true ∧ ∃ left right, Expr.Item.order c (ofDocument x) (ofDocument v.written) =
      .error (.unordered c left right)) ∨
    (c.clashes x v = false ∧ ∃ w, Expr.Item.order c (ofDocument x) (ofDocument v.written) = .ok w ∧
      Expr.Item.isTrueLike w = c.holds x v) := by
  rw [holds_of_isOrder hc]
  cases x with
  | reference x => exact x.elim
  | number m =>
      cases v with
      | number n =>
          refine .inr ⟨rfl, _, rfl, ?_⟩
          rw [isTrueLike_bool, orderNumbers_written]
          rfl
      | text t => exact .inl ⟨hc, _, _, rfl⟩
      | _ => exact .inr ⟨rfl, _, rfl, rfl⟩
  | text s =>
      cases v with
      | text t => exact .inr ⟨rfl, _, rfl, isTrueLike_bool _⟩
      | number n => exact .inl ⟨hc, _, _, rfl⟩
      | _ => exact .inr ⟨rfl, _, rfl, rfl⟩
  | array items => cases v <;> rw [ofDocument] <;> exact .inr ⟨rfl, _, rfl, rfl⟩
  | object entries => cases v <;> rw [ofDocument] <;> exact .inr ⟨rfl, _, rfl, rfl⟩
  | _ => cases v <;> exact .inr ⟨rfl, _, rfl, rfl⟩

/-- A comparison with a scalar is an error where it clashes, and else it says whether it holds. -/
theorem compare_ofDocument (c : Comparison) (x : Document) (v : Scalar) :
    (c.clashes x v = true ∧ ∃ left right,
      Expr.Item.compare c (ofDocument x) (ofDocument v.written) =
      .error (.unordered c left right)) ∨
    (c.clashes x v = false ∧ ∃ w,
      Expr.Item.compare c (ofDocument x) (ofDocument v.written) = .ok w ∧
      Expr.Item.isTrueLike w = c.holds x v) := by
  have hclash : c.isOrder = false → c.clashes x v = false := by
    intro hc
    cases x <;> cases v <;> first | rfl | exact hc
  cases hc : c.isOrder with
  | true =>
      have horder := order_ofDocument hc x v
      cases c with
      | eq => cases hc
      | ne => cases hc
      | _ => exact horder
  | false =>
      refine .inr ⟨hclash hc, ?_⟩
      cases c with
      | eq => exact ⟨_, rfl, (isTrueLike_bool _).trans (equal_ofDocument x v)⟩
      | ne => exact ⟨_, rfl, (isTrueLike_bool _).trans (congrArg (!·) (equal_ofDocument x v))⟩
      | _ => cases hc

/-! ## Filters -/

section

variable (c : Comparison) (path : FieldPath) (v : Scalar)

/-- A filter chooses an item if its value at the path stands in the comparison. -/
theorem chooseItem_ofDocument (x : Document) :
    (c.clashes (x.atPath path) v = true ∧ ∃ left right,
      Expr.chooseItem c path (ofDocument v.written) (ofDocument x) =
        .error (.unordered c left right)) ∨
    (c.clashes (x.atPath path) v = false ∧
      Expr.chooseItem c path (ofDocument v.written) (ofDocument x) =
        .ok (ofDocument (if c.holds (x.atPath path) v then x else .null))) := by
  rw [Expr.chooseItem, fieldsOf_ofDocument]
  rcases compare_ofDocument c (x.atPath path) v with ⟨hclash, left, right, h⟩ | ⟨hclash, w, h, hw⟩
  · exact .inl ⟨hclash, left, right, by rw [h]; rfl⟩
  · refine .inr ⟨hclash, ?_⟩
    rw [h, ← hw]
    change (.ok
      (if Expr.Item.isTrueLike w then ofDocument x else .null) : Except EvalError Item) = _
    split_ifs <;> rfl

/-- A filter goes through items up to one that it cannot compare. -/
theorem mapM_chooseItem (items : List Document) :
    ((∃ x ∈ items, c.clashes (x.atPath path) v = true) ∧ ∃ left right,
      (items.map ofDocument).mapM (Expr.chooseItem c path (ofDocument v.written)) =
        .error (.unordered c left right)) ∨
    ((∀ x ∈ items, c.clashes (x.atPath path) v = false) ∧
      (items.map ofDocument).mapM (Expr.chooseItem c path (ofDocument v.written)) =
        .ok ((items.map fun x => if c.holds (x.atPath path) v then x else .null).map
          ofDocument)) := by
  induction items with
  | nil => exact .inr ⟨fun _ h => absurd h List.not_mem_nil, rfl⟩
  | cons x items ih =>
      rw [List.map_cons, List.mapM_cons]
      rcases chooseItem_ofDocument c path v x with ⟨hclash, left, right, h⟩ | ⟨hclash, h⟩
      · exact .inl ⟨⟨x, List.mem_cons_self, hclash⟩, left, right, by rw [h]; rfl⟩
      · rcases ih with ⟨⟨y, hy, hclash'⟩, left, right, h'⟩ | ⟨hall, h'⟩
        · exact .inl ⟨⟨y, List.mem_cons_of_mem x hy, hclash'⟩, left, right, by rw [h, h']; rfl⟩
        · exact .inr ⟨List.forall_mem_cons.2 ⟨hclash, hall⟩, by rw [h, h']; rfl⟩

theorem dropNulls_map_ite (keep : Document → Bool) (items : List Document) :
    Json.Value.dropNulls (items.map fun x => if keep x then x else .null) =
      (Json.Value.dropNulls items).filter keep := by
  induction items with
  | nil => rfl
  | cons x items ih =>
      simp only [Json.Value.dropNulls] at ih ⊢
      have hnone : (Json.Value.null : Document).isNull = true := rfl
      cases hkeep : keep x <;> cases hnull : x.isNull <;>
        simp only [List.map_cons, List.filter_cons, hkeep, hnull, hnone, ih, Bool.not_true,
          Bool.not_false, Bool.false_eq_true, if_true, if_false]

/-- The filter stage fails where some item clashes with the scalar, and else it keeps the items that
are not null and stand in the comparison. -/
theorem selectItems_ofDocument (items : List Document) :
    ((∃ x ∈ items, c.clashes (x.atPath path) v = true) ∧ ∃ left right,
      Expr.selectItems c path (ofDocument v.written) (ofDocument (.array items)) =
        .error (.unordered c left right)) ∨
    ((∀ x ∈ items, c.clashes (x.atPath path) v = false) ∧
      Expr.selectItems c path (ofDocument v.written) (ofDocument (.array items)) =
        .ok (ofDocument (.array ((Json.Value.dropNulls items).filter fun x =>
          c.holds (x.atPath path) v)))) := by
  rw [ofDocument_array, Expr.selectItems]
  rcases mapM_chooseItem c path v items with ⟨hclash, left, right, h⟩ | ⟨hall, h⟩
  · exact .inl ⟨hclash, left, right, by rw [h]; rfl⟩
  · refine .inr ⟨hall, ?_⟩
    rw [h, ofDocument_array, ← dropNulls_map_ite, ← dropNulls_map_ofDocument]
    rfl

end

/-! ## Sorts -/

theorem isNumber_ofDocument (d : Document) : Expr.Item.isNumber (ofDocument d) = d.isNumber := by
  cases d with
  | reference x => exact x.elim
  | _ => rw [ofDocument]; rfl

theorem isText_ofDocument (d : Document) : Expr.Item.isText (ofDocument d) = d.isText := by
  cases d with
  | reference x => exact x.elim
  | _ => rw [ofDocument]; rfl

theorem before_ofDocument (x y : Document) :
    Expr.Item.before (ofDocument x) (ofDocument y) = SortKey.before x y := by
  cases x with
  | reference x => exact x.elim
  | array items => rw [ofDocument]; rfl
  | object entries => rw [ofDocument]; rfl
  | _ =>
      cases y with
      | reference y => exact y.elim
      | array items => rw [ofDocument]; rfl
      | object entries => rw [ofDocument]; rfl
      | _ => rfl

theorem sortable_ofDocument (path : FieldPath) (items : List Document) :
    Expr.sortable ((items.map ofDocument).map (fieldsOf path)) = true ↔
      SortKey.Sortable path items := by
  have hkeys : (items.map ofDocument).map (fieldsOf path) =
      items.map fun x => ofDocument (x.atPath path) := by
    rw [List.map_map]
    exact List.map_congr_left fun x _ => fieldsOf_ofDocument path x
  rw [hkeys, Expr.sortable, SortKey.Sortable]
  simp only [Bool.or_eq_true, List.all_map, List.all_eq_true, Function.comp_apply,
    isNumber_ofDocument, isText_ofDocument]

theorem withKeys_ofDocument (path : FieldPath) (items : List Document) :
    Expr.withKeys (fieldsOf path) (items.map ofDocument) =
      items.map fun x => (ofDocument (x.atPath path), ofDocument x) := by
  rw [Expr.withKeys, List.map_map]
  exact List.map_congr_left fun x _ => Prod.ext (fieldsOf_ofDocument path x) rfl

/-- A key that is a number on the number line, or a text, has a place in the order of its kind. -/
theorem hasPlace_of_sortable {path : FieldPath} {items : List Document}
    (hsortable : SortKey.Sortable path items)
    (hnan : ∀ x ∈ items, (x.atPath path).isNaN = false) {x : Document} (hx : x ∈ items) :
    Expr.Item.hasPlace (ofDocument (x.atPath path)) = true := by
  rcases hsortable with hnumbers | htexts
  · obtain ⟨n, p, hn, hp⟩ := exists_number (hnumbers x hx) (hnan x hx)
    rw [hn]
    exact Option.isSome_iff_exists.2 ⟨p, hp⟩
  · obtain ⟨s, hs⟩ := exists_text (htexts x hx)
    rw [hs]
    rfl

theorem sortKeyed_ofDocument {path : FieldPath} {items : List Document}
    (hsortable : SortKey.Sortable path items)
    (hnan : ∀ x ∈ items, (x.atPath path).isNaN = false) :
    Expr.Function.sortKeyed (Expr.withKeys (fieldsOf path) (items.map ofDocument)) =
      (SortKey.ascending path items).map ofDocument := by
  have hall : (items.map fun x => (ofDocument (x.atPath path), ofDocument x)).all
      (fun pair => Expr.Item.hasPlace pair.1) = true := by
    simp only [List.all_map, List.all_eq_true, Function.comp_apply]
    exact fun x hx => hasPlace_of_sortable hsortable hnan hx
  have hbefore : ∀ x ∈ items, ∀ y ∈ items,
      (!SortKey.before (y.atPath path) (x.atPath path)) =
        !Expr.Item.before (ofDocument (y.atPath path)) (ofDocument (x.atPath path)) :=
    fun x _ y _ => congrArg (!·) (before_ofDocument _ _).symm
  rw [withKeys_ofDocument, Expr.Function.sortKeyed, if_pos hall, SortKey.ascending]
  have hsort := @List.map_mergeSort _ _ _
    (fun a b : Item × Item => !Expr.Item.before b.1 a.1)
    (fun x => (ofDocument (x.atPath path), ofDocument x)) items hbefore
  rw [← hsort, List.map_map]
  rfl

/-- A sort of items whose keys are not all of one kind fails. -/
theorem sortItems_of_not_sortable {o : SortKey} {items : List Document}
    (h : ¬SortKey.Sortable o.path items) :
    Expr.sortItems o.path o.direction (ofDocument (.array items)) = .error .argumentKind := by
  rw [ofDocument_array, Expr.sortItems, Expr.ascendingItems,
    if_neg (mt (sortable_ofDocument _ _).1 h)]
  split_ifs <;> rfl

/-- A sort of items whose keys are all of one kind yields an array. -/
theorem exists_sortItems {o : SortKey} {items : List Document} (h : SortKey.Sortable o.path items) :
    ∃ sorted,
      Expr.sortItems o.path o.direction (ofDocument (.array items)) = .ok (.array sorted) := by
  rw [ofDocument_array, Expr.sortItems, Expr.ascendingItems, if_pos ((sortable_ofDocument _ _).2 h)]
  split_ifs <;> exact ⟨_, rfl⟩

/-- The sort stage puts items into the order of the sort. -/
theorem sortItems_ofDocument {o : SortKey} {items : List Document}
    (hsortable : SortKey.Sortable o.path items)
    (hnan : ∀ x ∈ items, (x.atPath o.path).isNaN = false) :
    Expr.sortItems o.path o.direction (ofDocument (.array items)) =
      .ok (ofDocument (.array (o.sorted items))) := by
  rw [ofDocument_array, ofDocument_array, Expr.sortItems, Expr.ascendingItems,
    if_pos ((sortable_ofDocument _ _).2 hsortable), sortKeyed_ofDocument hsortable hnan,
    SortKey.sorted]
  split_ifs
  · rw [List.map_reverse]
    rfl
  · rfl

/-! ## Projections -/

/-- What a projection takes from an item, as a value. -/
def Projection.takeItem (p : Projection) : Item → Item :=
  match p.paths with
  | [path] => fieldsOf path
  | paths => Expr.objectOf (paths.map fun path => (pathKey path, path))

theorem objectOf_ofDocument (paths : List FieldPath) {x : Document} (hx : x.isNull = false) :
    Expr.objectOf (paths.map fun path => (pathKey path, path)) (ofDocument x) =
      ofDocument
        (.object (Entries.ofPairs (paths.map fun path => (pathKey path, x.atPath path)))) := by
  have hpairs : Expr.fieldsAt (paths.map fun path => (pathKey path, path)) (ofDocument x) =
      (paths.map fun path => (pathKey path, x.atPath path)).map fun pair =>
        (Key.text pair.1, ofDocument pair.2) := by
    rw [Expr.fieldsAt, List.map_map, List.map_map]
    exact List.map_congr_left fun path _ => Prod.ext rfl (fieldsOf_ofDocument path x)
  rw [Expr.objectOf, isNull_ofDocument, hx, hpairs, ofPairs_map_ofDocument]
  rfl

theorem takeItem_ofDocument (p : Projection) {x : Document} (hx : x.isNull = false) :
    p.takeItem (ofDocument x) = ofDocument (p.take x) := by
  obtain ⟨paths⟩ := p
  match paths with
  | [] => exact objectOf_ofDocument [] hx
  | [path] => exact fieldsOf_ofDocument path x
  | first :: second :: rest => exact objectOf_ofDocument (first :: second :: rest) hx

/-- The selection of all items keeps those that are not null. -/
theorem projectItems_id_ofDocument (items : List Document) :
    Expr.projectItems id (ofDocument (.array items)) =
      ofDocument (.array (Json.Value.dropNulls items)) := by
  rw [ofDocument_array, ofDocument_array, Expr.projectItems, List.map_id, dropNulls_map_ofDocument]

/-- The projection stage takes from every item what the projection asks for. -/
theorem projectItems_ofDocument (p : Projection) {items : List Document}
    (hitems : ∀ x ∈ items, x.isNull = false) :
    Expr.projectItems p.takeItem (ofDocument (.array items)) =
      ofDocument (.array (p.project items)) := by
  have htake : (items.map ofDocument).map p.takeItem = (items.map p.take).map ofDocument := by
    rw [List.map_map, List.map_map]
    exact List.map_congr_left fun x hx => takeItem_ofDocument p (hitems x hx)
  rw [ofDocument_array, ofDocument_array, Expr.projectItems, htake, dropNulls_map_ofDocument]
  rfl

end Winnow
