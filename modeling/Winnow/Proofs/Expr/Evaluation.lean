import Winnow.Expr.Eval
import Winnow.Proofs.Expr.Reading

/-!
# Evaluation of stages

The expressions that stages consist of need only a fixed number of places, whatever value they are
evaluated at, so with the room of a query they always have a value or fail for a reason of their
own.

* `Computes` — the value of an expression wherever a number of places is left.
* `fieldsOf`, `computes_chain` — chains of lookups.
* `projectItems`, `selectItems`, `sortItems` — projections, filter projections and sorts of arrays.
* `computes_piped`, `eval_of_computes` — pipes, and whole queries.
-/

namespace Winnow.Expr

open Json

variable {call : Evaluator} {n room : ℕ} {here : Origin} {e e' : Expr} {v : Item}

/-- Wherever `n` places are left, the value of an expression is what `f` says. -/
def Computes (n : ℕ) (e : Expr) (f : Item → Except EvalError Item) : Prop :=
  ∀ depth room here v, n ≤ room → evalWith (evalDepth (depth + 1)) room here e v = f v

theorem deeper_of_le {α : Type} (h : 2 ≤ room) (compute : ℕ → Except EvalError α) :
    deeper room compute = compute (room - 2) :=
  inside_of_le h compute

theorem Computes.mono {f : Item → Except EvalError Item} {m : ℕ} (h : Computes n e f)
    (hnm : n ≤ m) :
    Computes m e f :=
  fun depth room here v hm => h depth room here v (hnm.trans hm)

/-- A level further in, two places less are left. -/
theorem Computes.deeper {f : Item → Except EvalError Item} (h : Computes n e f) {depth : ℕ}
    (hroom : n + 2 ≤ room) :
    deeper room (fun room => evalWith (evalDepth (depth + 1)) room here e v) = f v := by
  rw [deeper_of_le (by omega)]
  exact h depth _ here v (by omega)

/-! ## Chains -/

/-- The value that keys lead to one after the other. -/
def fieldsOf (path : List Text) (v : Item) : Item := path.foldl (fun v name => fieldOf name v) v

/-- Lookups after an expression need no more places, however many they are: they are on one level.
-/
theorem evalWith_lookups (path : List Text) {w : Item}
    (h : ∀ {room here}, 2 ≤ room → evalWith call room here e v = .ok w ∧
      atStart (isChain e) room (fun room => evalWith call room here e v) = .ok w)
    (hroom : 2 ≤ room) : evalWith call room here (lookups e path) v = .ok (fieldsOf path w) := by
  -- the expression grows to the left; what carries over is that it needs no level of its own
  induction path generalizing e w with
  | nil => exact (h hroom).1
  | cons name path ih =>
      have hstep : ∀ {room here}, 2 ≤ room →
          evalWith call room here (.sub e (.field name)) v = .ok (fieldOf name w) := by
        intro room here hroom
        rw [evalWith, (h hroom).2]
        change deeper room (fun room => evalWith call room (1 :: here) (.field name) w) = _
        rw [deeper_of_le hroom, evalWith_field]
      exact ih fun hroom => ⟨hstep hroom, hstep hroom⟩

/-- A chain of lookups has a value at every value. -/
theorem evalWith_chain (path : List Text) (hroom : 2 ≤ room) :
    evalWith call room here (chain path) v = .ok (fieldsOf path v) := by
  cases path with
  | nil => rw [chain, evalWith]; rfl
  | cons name path =>
      refine evalWith_lookups path (fun {room here} hroom => ?_) hroom
      have hfield : ∀ room, evalWith call room here (.field name) v = .ok (fieldOf name v) :=
        fun room => evalWith_field call room here v name
      have hstart := deeper_of_le hroom fun room => evalWith call room here (.field name) v
      exact ⟨hfield room, hstart.trans (hfield _)⟩

theorem computes_chain (path : List Text) :
    Computes 2 (chain path) fun v => .ok (fieldsOf path v) :=
  fun _ _ _ _ hroom => evalWith_chain path hroom

theorem computes_current : Computes 0 .current .ok :=
  fun depth room here v _ => evalWith_current (evalDepth depth) room here v

/-! ## Item by item -/

theorem mapM_zipIdx_eq {α β : Type} {f : α × ℕ → Except EvalError β} {g : α → Except EvalError β}
    {xs : List α} (h : ∀ x i, f (x, i) = g x) : xs.zipIdx.mapM f = xs.mapM g := by
  have hfrom : ∀ k, (xs.zipIdx k).mapM f = xs.mapM g := by
    induction xs with
    | nil => exact fun _ => rfl
    | cons x xs ih =>
        intro k
        rw [List.zipIdx_cons, List.mapM_cons, List.mapM_cons, h, ih]
  exact hfrom 0

theorem mapM_ok {α β : Type} (g : α → β) (xs : List α) :
    xs.mapM (fun x => (.ok (g x) : Except EvalError β)) = .ok (xs.map g) :=
  List.mapM_pure

/-- What is taken from the items of an array, without what is null. -/
def projectItems (g : Item → Item) : Item → Item
  | .array items => .array (dropNulls (items.map g))
  | _ => .null

/-- A projection takes a value from every item. -/
theorem computes_project {g : Item → Item} (h : Computes n e fun v => .ok (g v)) :
    Computes (n + 2) (.project .current e) fun v => .ok (projectItems g v) := by
  intro depth room here v hroom
  rw [evalWith, deeper_of_le (by omega), evalWith]
  cases v with
  | array items =>
      have hitems : ∀ x i, (fun p : Item × ℕ => deeper room fun room =>
          evalWith (evalDepth (depth + 1)) room (p.2 :: 1 :: here) e p.1) (x, i) = .ok (g x) :=
        fun x i => h.deeper hroom
      change (do
        let values ← items.zipIdx.mapM fun (p : Item × ℕ) => deeper room fun room =>
          evalWith (evalDepth (depth + 1)) room (p.2 :: 1 :: here) e p.1
        pure (Value.array (dropNulls values))) = _
      rw [mapM_zipIdx_eq hitems, mapM_ok]
      rfl
  | _ => rfl

/-! ## Objects of several values -/

/-- The entries of an object with the values at several paths. -/
def fieldsAt (pairs : List (Text × List Text)) (v : Item) : List (Key × Item) :=
  pairs.map fun pair => (.text pair.1, fieldsOf pair.2 v)

/-- An object with the values at several paths; there is none at null. -/
def objectOf (pairs : List (Text × List Text)) (v : Item) : Item :=
  if v.isNull then .null else .object (Entries.ofPairs (fieldsAt pairs v))

theorem evalPairs_chains (pairs : List (Text × List Text)) {count : ℕ} (hroom : 6 ≤ room) :
    evalPairs call room here count (pairs.map fun pair => (pair.1, chain pair.2)) v =
      .ok (fieldsAt pairs v) := by
  induction pairs generalizing count with
  | nil => rw [List.map_nil, evalPairs]; rfl
  | cons pair pairs ih =>
      rw [List.map_cons, evalPairs, deeper_of_le (by omega), deeper_of_le (by omega),
        evalWith_chain _ (by omega), ih]
      rfl

theorem computes_hash (pairs : List (Text × List Text)) :
    Computes 6 (.hash (pairs.map fun pair => (pair.1, chain pair.2))) fun v =>
      .ok (objectOf pairs v) := by
  intro depth room here v hroom
  rw [evalWith, evalPairs_chains pairs hroom]
  dsimp only [objectOf]
  split_ifs <;> rfl

/-! ## Filters -/

/-- An item if its value at a path stands in a comparison to `w`, else null. -/
def chooseItem (c : Comparison) (path : List Text) (w x : Item) : Except EvalError Item := do
  let outcome ← Item.compare c (fieldsOf path x) w
  return if Item.isTrueLike outcome then x else .null

/-- The items of an array that are chosen, without those that are null. -/
def selectItems (c : Comparison) (path : List Text) (w : Item) : Item → Except EvalError Item
  | .array items => do return .array (dropNulls (← items.mapM (chooseItem c path w)))
  | _ => .ok .null

theorem computes_compare (c : Comparison) (path : List Text) (value : Document) :
    Computes 8 (.compare c (chain path) (.literal value)) fun v =>
      Item.compare c (fieldsOf path v) (Item.ofDocument value) := by
  intro depth room here v hroom
  have hplaces : comparePlaces c ≤ room := by
    cases c <;> simp only [comparePlaces] <;> omega
  rw [evalWith, deeper_of_le (by omega), evalWith_chain _ (by omega), deeper_of_le (by omega),
    evalWith]
  exact inside_of_le hplaces fun _ => Item.compare c (fieldsOf path v) (Item.ofDocument value)

theorem computes_select (c : Comparison) (path : List Text) (value : Document) :
    Computes 10 (.select .current (.compare c (chain path) (.literal value)) .current)
      (selectItems c path (Item.ofDocument value)) := by
  intro depth room here v hroom
  have hitem : ∀ x i, (fun p : Item × ℕ => do
      let outcome ← deeper room fun room => evalWith (evalDepth (depth + 1)) room (p.2 :: 1 :: here)
        (.compare c (chain path) (.literal value)) p.1
      if ← inside truthPlaces room fun _ => return Item.isTrueLike outcome then
        deeper room fun room =>
          evalWith (evalDepth (depth + 1)) room (p.2 :: 2 :: here) .current p.1
      else return .null) (x, i) = chooseItem c path (Item.ofDocument value) x := by
    intro x i
    dsimp only
    rw [(computes_compare c path value).deeper hroom, chooseItem]
    cases Item.compare c (fieldsOf path x) (Item.ofDocument value) with
    | error cause => rfl
    | ok outcome =>
        have htruth : truthPlaces ≤ room := by simp only [truthPlaces]; omega
        rw [computes_current.deeper (by omega)]
        change (do
          let chosen ← inside truthPlaces room fun _ => .ok (Item.isTrueLike outcome)
          if chosen then Except.ok x else .ok .null) = _
        rw [inside_of_le htruth]
        cases hchosen : Item.isTrueLike outcome <;>
          simp [hchosen, bind, Except.bind, pure, Except.pure]
  rw [evalWith, deeper_of_le (by omega), evalWith]
  cases v with
  | array items =>
      exact congrArg (fun chosen => chosen >>= fun chosen => pure (Value.array (dropNulls chosen)))
        (mapM_zipIdx_eq hitem)
  | _ => rfl

/-! ## Sorts -/

/-- Whether keys can be sorted by: all are numbers, or all are texts. -/
def sortable (keys : List Item) : Bool := keys.all Item.isNumber || keys.all Item.isText

/-- Items with their keys. -/
def withKeys (key : Item → Item) (items : List Item) : List (Item × Item) :=
  items.map fun x => (key x, x)

theorem mapM_check {keep : Item → Bool} {key : Item → Item} (items : List Item) :
    (items.mapM fun x => if keep (key x) then (pure (key x, x) : Except EvalError (Item × Item))
      else throw .argumentKind) =
      if items.all (fun x => keep (key x)) then .ok (withKeys key items)
      else .error .argumentKind := by
  induction items with
  | nil => rfl
  | cons x items ih =>
      rw [List.mapM_cons, ih, List.all_cons]
      cases keep (key x) with
      | false => rfl
      | true => cases items.all fun x => keep (key x) <;> rfl

/-- Whether two keys are both numbers or both texts. -/
def sameKind (k k' : Item) : Bool :=
  Item.isNumber k' && Item.isNumber k || Item.isText k' && Item.isText k

/-- Keys can be sorted by if they are all of the kind of the first, and that is a kind of keys. -/
theorem sortable_cons (k : Item) (keys : List Item) :
    sortable (k :: keys) = (Function.isKey k && (k :: keys).all (sameKind k)) := by
  cases k with
  | number m =>
      have hsame : sameKind (.number m) = Item.isNumber := by
        funext k'
        cases k' <;> rfl
      simp [sortable, Function.isKey, hsame, Item.isNumber, Item.isText]
  | text s =>
      have hsame : sameKind (.text s) = Item.isText := by
        funext k'
        cases k' <;> rfl
      simp [sortable, Function.isKey, hsame, Item.isNumber, Item.isText]
  | _ => simp [sortable, Function.isKey, Item.isNumber, Item.isText]

/-- A sort by keys that are there for all items fails only where the keys cannot be sorted by. -/
theorem sortedBy_ok (key : Item → Item) (items : List Item) :
    Function.sortedBy (fun x => .ok (key x)) items =
      if sortable (items.map key) then .ok (Function.sortKeyed (withKeys key items))
      else .error .argumentKind := by
  cases items with
  | nil => simp [Function.sortedBy, Function.sortKeyed, sortable, withKeys]
  | cons first rest =>
      -- the key of the first item is taken twice, once for its kind and once to sort by
      have hloop : Function.sortedBy (fun x => .ok (key x)) (first :: rest) = (do
          let k ← Function.keyAt (fun x => .ok (key x)) first
          let keyed ← (first :: rest).mapM fun x => if sameKind k (key x) then
            (pure (key x, x) : Except EvalError (Item × Item)) else throw .argumentKind
          return Function.sortKeyed keyed) := rfl
      have hfirst : Function.keyAt (fun x => .ok (key x)) first =
          if Function.isKey (key first) then .ok (key first) else .error .argumentKind := rfl
      have hall : (first :: rest).all (fun x => sameKind (key first) (key x)) =
          (key first :: rest.map key).all (sameKind (key first)) := by
        rw [← List.map_cons, List.all_map]
        rfl
      rw [hloop, hfirst, List.map_cons, sortable_cons]
      cases Function.isKey (key first) with
      | false => rfl
      | true =>
          change ((first :: rest).mapM (fun x => if sameKind (key first) (key x) then
            (pure (key x, x) : Except EvalError (Item × Item)) else throw .argumentKind) >>=
              fun keyed => pure (Function.sortKeyed keyed)) = _
          rw [mapM_check, hall, Bool.true_and]
          split_ifs <;> rfl

/-! ## Calls -/

theorem callFunction_of_ok {f : Function} {name : Text} {arguments : List Item}
    (hname : Function.ofName? name = some f) (hroom : 5 ≤ room)
    (hcheck : f.checkArguments arguments = .ok ()) :
    callFunction call room here name arguments =
      f.apply (fun place e v => inside f.places room fun room => deeper room fun room =>
        call room place e v) room here arguments := by
  rw [callFunction, hname]
  dsimp only
  rw [inside_of_le (show checkPlaces ≤ room from hroom), hcheck]
  rfl

theorem callFunction_of_error {f : Function} {name : Text} {arguments : List Item}
    {cause : EvalError} (hname : Function.ofName? name = some f) (hroom : 5 ≤ room)
    (hcheck : f.checkArguments arguments = .error cause) :
    callFunction call room here name arguments = .error cause := by
  rw [callFunction, hname]
  dsimp only
  rw [inside_of_le (show checkPlaces ≤ room from hroom), hcheck]
  rfl

/-- The items of an array in the ascending order of their values at a path. -/
def ascendingItems (path : List Text) : Item → Except EvalError Item
  | .array items =>
      if sortable (items.map (fieldsOf path)) then
        .ok (.array (Function.sortKeyed (withKeys (fieldsOf path) items)))
      else .error .argumentKind
  | _ => .error .argumentKind

theorem computes_sortBy (path : List Text) :
    Computes 11 (.call "sort_by" [.current, .reference (chain path)]) (ascendingItems path) := by
  intro depth room here v hroom
  have hname : Function.ofName? "sort_by" = some .sortBy := by decide
  have harguments : evalList (evalDepth (depth + 1)) room (1 :: here) 0
      [.current, .reference (chain path)] v =
        .ok [v, .reference ⟨chain path, 1 :: 1 :: here⟩] := by
    rw [evalList, deeper_of_le (by omega), evalWith, evalList, deeper_of_le (by omega), evalWith,
      evalList]
    rfl
  have hkey : ∀ place x, inside (Function.places .sortBy) room (fun room => deeper room fun room =>
      evalDepth (depth + 1) room place (chain path) x) = .ok (fieldsOf path x) := by
    intro place x
    have hplaces : Function.places .sortBy ≤ room := show 5 ≤ room by omega
    have hleft : 2 ≤ room - Function.places .sortBy := show 2 ≤ room - 5 by omega
    rw [inside_of_le hplaces, deeper_of_le hleft]
    exact evalWith_chain path (show 2 ≤ room - 5 - 2 by omega)
  rw [evalWith, harguments]
  change callFunction _ room (0 :: here) "sort_by" _ = _
  cases v with
  | array items =>
      rw [callFunction_of_ok hname (by omega) rfl, Function.apply]
      simp only [hkey, sortedBy_ok, ascendingItems]
      split_ifs <;> rfl
  | _ => exact callFunction_of_error hname (by omega) rfl

/-- An array from its last item to its first. -/
def reverseItems : Item → Item
  | .array items => .array items.reverse
  | v => v

/-- The items of an array in the order of a sort. -/
def sortItems (path : List Text) (direction : Text) (v : Item) : Except EvalError Item :=
  if direction = "desc" then reverseItems <$> ascendingItems path v else ascendingItems path v

theorem computes_reverse {f : Item → Except EvalError Item} (h : Computes n e f)
    (harray : ∀ v w, f v = .ok w → w.isArray = true) :
    Computes (n + 7) (.call "reverse" [e]) fun v => reverseItems <$> f v := by
  intro depth room here v hroom
  have hname : Function.ofName? "reverse" = some .reverse := by decide
  rw [evalWith, evalList, h.deeper (by omega), evalList]
  dsimp only
  cases hv : f v with
  | error cause => rfl
  | ok w =>
      change callFunction _ room (0 :: here) "reverse" [w] = _
      cases w with
      | array items => exact callFunction_of_ok hname (by omega) rfl
      | _ => cases harray v _ hv

theorem isArray_of_ascendingItems {path : List Text} {w : Item}
    (h : ascendingItems path v = .ok w) : w.isArray = true := by
  unfold ascendingItems at h
  split at h
  · split_ifs at h
    cases h
    rfl
  · cases h

/-! ## Pipes -/

theorem computes_pipe {f g : Item → Except EvalError Item} (h : Computes n e f)
    (h' : Computes n e' g) : Computes (n + 2) (.pipe e e') fun v => f v >>= g := by
  intro depth room here v hroom
  rw [evalWith, h.deeper hroom]
  dsimp only
  cases f v with
  | error cause => rfl
  | ok w => exact h'.deeper hroom

/-- A query has enough room for an expression that needs no more than it gives. -/
theorem eval_of_computes [Limits] {f : Item → Except EvalError Item} (h : Computes n e f)
    (hn : n ≤ 62) (v : Item) : eval e v = f v := by
  have hplaces := Limits.evalPlaces_ge
  obtain ⟨depth, hdepth⟩ : ∃ depth, Limits.evalPlaces = depth + 2 :=
    ⟨Limits.evalPlaces - 2, by omega⟩
  have hroom : n + 2 ≤ depth + 2 := by omega
  rw [eval, hdepth]
  exact h.deeper hroom

end Winnow.Expr
