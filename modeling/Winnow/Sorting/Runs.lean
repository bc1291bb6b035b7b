import Winnow.Sorting.Merge

/-!
# Sorting by runs

A sequence is cut into runs that ascend as it is, or that descend strictly and are turned round;
short ones are filled up by insertion. Neighbouring runs are merged in an order that keeps the
merges balanced: every border between two runs has a power, the depth at which it would stand in a
balanced tree over the whole sequence, and borders of higher power are merged first.

Of a strict order this is a stable sort like any other. It is defined for every comparison, and then
the outcome depends on which items are compared, so the steps are part of what is defined.

* `nextRun` — the run at the head of a list.
* `borderPower` — the power of a border.
* `sortByRuns` — the sorted list.
-/

namespace Winnow.Sorting

variable {α : Type}

/-! ## Runs -/

/-- How many items after `x` go on in the way of `goesOn`. -/
def runTail (goesOn : α → α → Bool) (x : α) : List α → Nat
  | [] => 0
  | y :: rest => if goesOn x y then runTail goesOn y rest + 1 else 0

/-- The run at the head of a list, ascending, and what follows it. -/
def naturalRun (lt : α → α → Bool) : List α → Array α × List α
  | [] => (#[], [])
  | [x] => (#[x], [])
  | x :: y :: rest =>
      if lt y x then
        let length := runTail (fun a b => lt b a) x (y :: rest) + 1
        (((x :: y :: rest).take length).toArray.reverse, (x :: y :: rest).drop length)
      else
        let length := runTail (fun a b => !lt b a) x (y :: rest) + 1
        (((x :: y :: rest).take length).toArray, (x :: y :: rest).drop length)

/-- A run with one more item, after those that it is not less than. -/
def insertInto (lt : α → α → Bool) (run : Array α) (x : α) : Array α :=
  let place := bisect (testAt run fun y => !lt x y) 0 run.size
  run.extract 0 place ++ #[x] ++ run.extract place run.size

/-- The run at the head of a list, filled up to `least` items while there are any, and what follows
it. -/
def nextRun (lt : α → α → Bool) (least : Nat) (items : List α) : Array α × List α :=
  let (run, rest) := naturalRun lt items
  let missing := least - run.size
  ((rest.take missing).foldl (insertInto lt) run, rest.drop missing)

/-- The least length of a run in a sequence of `length` items: all of a short one; of a long one so
many that the number of runs is a power of two or a little less. -/
def leastRun (length : Nat) (odd : Nat := 0) : Nat :=
  if length < 64 then length + odd else leastRun (length / 2) (max odd (length % 2))
termination_by length

/-! ## Powers -/

/-- The number of halvings of a whole that tell two points in it apart; `low` and `high` are their
distances from its beginning. The first argument bounds the number. -/
def halvings : Nat → Nat → Nat → Nat → Nat
  | 0, _, _, _ => 0
  | bound + 1, whole, low, high =>
      if whole ≤ low then halvings bound whole (2 * (low - whole)) (2 * (high - whole)) + 1
      else if whole ≤ high then 1
      else halvings bound whole (2 * low) (2 * high) + 1

/-- The power of the border between a run and the next one in a sequence of `length` items: the
halvings that tell their middles apart. -/
def borderPower (start left right length : Nat) : Nat :=
  let middle := 2 * start + left
  halvings 64 length middle (middle + left + right)

/-! ## Merging all runs -/

/-- A run that waits to be merged. -/
structure Waiting (α : Type) where
  start : Nat
  run : Array α
  /-- The power of the border after it. -/
  power : Nat := 0

/-- The runs that wait, the last first, and the patience for the next merge. -/
structure Pending (α : Type) where
  runs : List (Waiting α) := []
  patience : Nat := gallopGain

/-- A run merged with the next one. -/
def Waiting.merge (lt : α → α → Bool) (patience : Nat) (left right : Waiting α) : Waiting α × Nat :=
  let (run, patience) := mergeRuns lt patience left.run right.run
  ({ left with run := run }, patience)

/-- Merges the last runs while the border between them is of a higher power than `power`. -/
def settle (lt : α → α → Bool) (power patience : Nat) (last : Waiting α) :
    List (Waiting α) → Pending α
  | [] => ⟨[{ last with power := power }], patience⟩
  | before :: others =>
      if power < before.power then
        let (merged, patience) := before.merge lt patience last
        settle lt power patience merged others
      else ⟨{ last with power := power } :: before :: others, patience⟩

/-- Adds a run after those that wait. -/
def Pending.push (lt : α → α → Bool) (length : Nat) (p : Pending α) (run : Array α) : Pending α :=
  match p.runs with
  | [] => { p with runs := [⟨0, run, 0⟩] }
  | last :: others =>
      let start := last.start + last.run.size
      let settled := settle lt (borderPower last.start last.run.size run.size length) p.patience
        last others
      { settled with runs := ⟨start, run, 0⟩ :: settled.runs }

/-- Merges all runs: the last two, or the two before the last if the first of them is shorter than
the last. -/
def collapse (lt : α → α → Bool) (patience : Nat) (last : Waiting α) : List (Waiting α) → Array α
  | [] => last.run
  | [before] => (before.merge lt patience last).1.run
  | middle :: first :: others =>
      if first.run.size < last.run.size then
        let (merged, patience) := first.merge lt patience middle
        collapse lt patience last (merged :: others)
      else
        let (merged, patience) := middle.merge lt patience last
        collapse lt patience merged (first :: others)
termination_by runs => runs.length

/-- Cuts a list into runs and adds them to those that wait. The first argument bounds their
number. -/
def pushRuns (lt : α → α → Bool) (length least : Nat) : Nat → Pending α → List α → Pending α
  | 0, p, _ => p
  | _, p, [] => p
  | bound + 1, p, items =>
      let (run, rest) := nextRun lt least items
      pushRuns lt length least bound (p.push lt length run) rest

/-- A list in the order of `lt`. -/
def sortByRuns (lt : α → α → Bool) (items : List α) : List α :=
  let p := pushRuns lt items.length (leastRun items.length) items.length {} items
  match p.runs with
  | [] => []
  | last :: others => (collapse lt p.patience last others).toList

end Winnow.Sorting
