import Winnow.Number.Basic
import Winnow.Text.Decimal

/-!
# Shortest decimals of a float

The fewest digits that read back as a given positive float, and among those the nearest to it.

A float `m * 2 ^ q` is read back from every decimal in its rounding interval: from halfway to the
float below up to halfway to the float above, the two ends included exactly when `m` is even. The
search lays decimal grids of one, two, … seventeen digits over the interval and takes the first
grid that meets it; if a point of a grid meets it, so does one of the two neighbours of the value.

* `Interval` — a value and its rounding interval, over one denominator.
* `shortest` — the digits and the power of ten of the last one.
-/

namespace Winnow.Shortest

/-- A positive value `value / scale` with the ends of its rounding interval. -/
structure Interval where
  low : Nat
  value : Nat
  high : Nat
  scale : Nat
  /-- Whether the ends belong to the interval. -/
  closed : Bool

/-- The rounding interval of the float `m * 2 ^ q`. Below a power of two the floats lie twice as
close, unless it is the smallest. -/
def Interval.ofParts (m : Nat) (q : Int) : Interval :=
  let up := Nat.pow 2 q.toNat
  let lowGap := if m = Nat.pow 2 52 ∧ -1074 < q then 1 else 2
  { low := (4 * m - lowGap) * up
    value := 4 * m * up
    high := (4 * m + 2) * up
    scale := 4 * Nat.pow 2 (-q).toNat
    closed := m % 2 == 0 }

/-- Whether the decimal `d * 10 ^ k` lies in the interval. -/
def Interval.holds (i : Interval) (d : Nat) (k : Int) : Bool :=
  let x := d * Nat.pow 10 k.toNat * i.scale
  let unit := Nat.pow 10 (-k).toNat
  if i.closed then i.low * unit ≤ x && x ≤ i.high * unit
  else i.low * unit < x && x < i.high * unit

/-- The distance of `d * 10 ^ k` from the value, over a denominator that depends on `k` alone. -/
def Interval.distance (i : Interval) (d : Nat) (k : Int) : Nat :=
  let x := d * Nat.pow 10 k.toNat * i.scale
  let v := i.value * Nat.pow 10 (-k).toNat
  (x - v) + (v - x)

/-- The greatest power of ten that is not above the value. -/
def Interval.magnitude (i : Interval) : Int :=
  ((Text.decimal (i.value * Nat.pow 10 400 / i.scale)).length : Int) - 401

/-- The decimal of the grid `10 ^ k` that lies in the interval, the nearer of two, and of two
equally near the even one. -/
def Interval.onGrid (i : Interval) (k : Int) : Option Nat :=
  let d := i.value * Nat.pow 10 (-k).toNat / (i.scale * Nat.pow 10 k.toNat)
  match i.holds d k, i.holds (d + 1) k with
  | true, true =>
      let down := i.distance d k
      let up := i.distance (d + 1) k
      if down < up ∨ (down = up ∧ d % 2 = 0) then some d else some (d + 1)
  | true, false => some d
  | false, true => some (d + 1)
  | false, false => none

/-- The first of the grids from `digits` digits on that meets the interval. -/
def Interval.search (i : Interval) (magnitude : Int) : Nat → Nat → Nat × Int
  | 0, digits => ((i.onGrid (magnitude - digits + 1)).getD 0, magnitude - digits + 1)
  | more + 1, digits =>
      let k := magnitude - digits + 1
      match i.onGrid k with
      | some d => (d, k)
      | none => i.search magnitude more (digits + 1)

/-- A decimal without trailing zeros. -/
def dropZeros : Nat → Nat → Int → Nat × Int
  | 0, d, k => (d, k)
  | fuel + 1, d, k => if d % 10 = 0 ∧ d ≠ 0 then dropZeros fuel (d / 10) (k + 1) else (d, k)

/-- The shortest decimal `d * 10 ^ k` of the float `m * 2 ^ q`, without trailing zeros. -/
def shortest (m : Nat) (q : Int) : Nat × Int :=
  let i := Interval.ofParts m q
  let (d, k) := i.search i.magnitude 16 1
  dropZeros 20 d k

end Winnow.Shortest
