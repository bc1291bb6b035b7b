import Winnow.Sorting.Search

/-!
# Merging sorted runs

Two neighbouring runs become one. Items that are in place already stay out of it; the others are
taken from both runs one after the other, from the front if the left run is the shorter one, else
from the back. While one run wins again and again, its winners are looked for by galloping.

* `Queue` — a run from which items are taken.
* `Merge` — a merge under way; `Merge.run` finishes it.
* `mergeRuns` — the merged run, with the patience that is left for the next merge.
-/

namespace Winnow.Sorting

/-- From which end runs are merged. -/
inductive End where
  | front
  | back
  deriving DecidableEq

/-! ## Queues -/

/-- The items of a run in the order in which they are taken, the first `taken` of them gone. -/
structure Queue (α : Type) where
  items : Array α
  taken : Nat := 0

namespace Queue

variable {α : Type}

/-- The number of items left. -/
def length (q : Queue α) : Nat := q.items.size - q.taken

/-- A test of the item at a position among those left. -/
def test (q : Queue α) (p : α → Bool) (i : Nat) : Bool := (q.items[q.taken + i]?.map p).getD false

/-- The items left. -/
def rest (q : Queue α) : Array α := q.items.extract q.taken q.items.size

/-- The next items. -/
def next (q : Queue α) (count : Nat) : Array α := q.items.extract q.taken (q.taken + count)

/-- The queue without its next items. -/
def drop (q : Queue α) (count : Nat) : Queue α := { q with taken := q.taken + count }

/-- How many items at the head are to be taken before a key, where `isLess` holds of the items that
stand before the key in the order. -/
def leading (q : Queue α) (side : End) (isLess : α → Bool) : Nat :=
  let n := q.length
  match side with
  | .front => gallop (q.test isLess) n 0
  | .back => n - gallop (fun i => q.test isLess (n - 1 - i)) n (n - 1)

end Queue

/-! ## Merges -/

/-- A merge under way. -/
structure Merge (α : Type) where
  left : Queue α
  right : Queue α
  /-- What has been merged, in the order in which it was taken. -/
  merged : Array α := #[]
  /-- How often one run has to win in a row for its winners to be looked for. -/
  patience : Nat

/-- How a merge goes on. -/
inductive Pace where
  /-- Item by item; the left or the right run has won so often in a row. -/
  | single (left right : Nat)
  /-- By galloping. -/
  | gallop

/-- So many winners found at once keep a merge galloping. -/
def gallopGain : Nat := 7

namespace Merge

variable {α : Type}

/-- Takes items from the left run. -/
def takeLeft (m : Merge α) (count : Nat) : Merge α :=
  { m with left := m.left.drop count, merged := m.merged ++ m.left.next count }

/-- Takes items from the right run. -/
def takeRight (m : Merge α) (count : Nat) : Merge α :=
  { m with right := m.right.drop count, merged := m.merged ++ m.right.next count }

/-- Whether nothing is left to compare: one run is used up, or of the run at the chosen end the
last item is known to be the last of all. -/
def isOver (side : End) (m : Merge α) : Bool :=
  match side with
  | .front => m.left.length ≤ 1 || m.right.length == 0
  | .back => m.right.length ≤ 1 || m.left.length == 0

/-- The merged run, with all that is left. -/
def outcome (side : End) (m : Merge α) : Array α :=
  match side with
  | .front => m.merged ++ m.right.rest ++ m.left.rest
  | .back => (m.merged ++ m.left.rest ++ m.right.rest).reverse

/-- Whether the head of the right run is less than that of the left run. -/
def rightIsLess (lt : α → α → Bool) (m : Merge α) : Bool :=
  m.left.test (fun x => m.right.test (fun y => lt y x) 0) 0

/-- Goes on until the merge is over; every round takes an item. -/
def run (lt : α → α → Bool) (side : End) : Nat → Pace → Merge α → Merge α
  | 0, _, m => m
  | rounds + 1, pace, m =>
      if m.isOver side then m
      else match pace with
        | .single left right =>
            if m.rightIsLess lt == (side == .front) then
              let m := m.takeRight 1
              if m.isOver side then m
              else if m.patience ≤ right + 1 then
                run lt side rounds .gallop { m with patience := m.patience + 1 }
              else run lt side rounds (.single 0 (right + 1)) m
            else
              let m := m.takeLeft 1
              if m.isOver side then m
              else if m.patience ≤ left + 1 then
                run lt side rounds .gallop { m with patience := m.patience + 1 }
              else run lt side rounds (.single (left + 1) 0) m
        | .gallop =>
            let m := { m with patience := max 1 (m.patience - 1) }
            let left := m.left.leading side fun x => !m.right.test (fun y => lt y x) 0
            let m := m.takeLeft left
            if m.isOver side then m
            else
              let m := m.takeRight 1
              if m.isOver side then m
              else
                let right := m.right.leading side fun y => m.left.test (fun x => lt y x) 0
                let m := m.takeRight right
                if m.isOver side then m
                else
                  let m := m.takeLeft 1
                  if m.isOver side then m
                  else if gallopGain ≤ left || gallopGain ≤ right then run lt side rounds .gallop m
                  else run lt side rounds (.single 0 0) { m with patience := m.patience + 1 }

end Merge

/-- A test of the item at a position. -/
def testAt {α : Type} (items : Array α) (p : α → Bool) (i : Nat) : Bool :=
  (items[i]?.map p).getD false

/-- Two runs as one, with the patience for the next merge. -/
def mergeRuns {α : Type} (lt : α → α → Bool) (patience : Nat) (left right : Array α) :
    Array α × Nat :=
  let low := gallop (testAt left fun x => !testAt right (fun y => lt y x) 0) left.size 0
  if left.size ≤ low then (left ++ right, patience)
  else
    let high := gallop (testAt right fun y => testAt left (fun x => lt y x) (left.size - 1))
      right.size (right.size - 1)
    if high = 0 then (left ++ right, patience)
    else
      let inner := left.extract low left.size
      let outer := right.extract 0 high
      let rounds := inner.size + outer.size
      let (side, m) : End × Merge α :=
        if inner.size ≤ high then
          (.front, Merge.takeRight ⟨⟨inner, 0⟩, ⟨outer, 0⟩, #[], patience⟩ 1)
        else (.back, Merge.takeLeft ⟨⟨inner.reverse, 0⟩, ⟨outer.reverse, 0⟩, #[], patience⟩ 1)
      let m := m.run lt side rounds (.single 0 0)
      (left.extract 0 low ++ m.outcome side ++ right.extract high right.size, m.patience)

end Winnow.Sorting
