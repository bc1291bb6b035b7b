/-!
# Searching in sorted sequences

Where in a sequence the items that come before a key end. The sequence is given by a test of its
positions; in a sorted one the test holds up to some position and fails from there on. Of other
sequences the searches tell what they happen to look at, so the order of their steps counts.

* `bisect` — halving an interval.
* `gallop` — from a position where the end is expected, in steps that double, and then by halving.
-/

namespace Winnow.Sorting

/-- The end of the positions that meet `before`, between `low` and `high`. -/
def bisect (before : Nat → Bool) (low high : Nat) : Nat :=
  if low < high then
    let middle := low + (high - low) / 2
    if before middle then bisect before (middle + 1) high else bisect before low middle
  else low
termination_by high - low

/-- The first of the steps 1, 3, 7, … that fails the test or reaches `limit`, after the step before
it. -/
def stride (holds : Nat → Bool) (limit last step : Nat) : Nat × Nat :=
  if step < limit then
    if holds step then stride holds limit step (2 * step + 1) else (last, step)
  else (last, limit)
termination_by limit - step

/-- The end of the positions below `length` that meet `before`, sought from `hint` on. -/
def gallop (before : Nat → Bool) (length hint : Nat) : Nat :=
  if before hint then
    let (last, step) := stride (fun k => before (hint + k)) (length - hint) 0 1
    bisect before (hint + last + 1) (hint + step)
  else
    let (last, step) := stride (fun k => !before (hint - k)) (hint + 1) 0 1
    bisect before (hint + 1 - step) (hint - last)

end Winnow.Sorting
