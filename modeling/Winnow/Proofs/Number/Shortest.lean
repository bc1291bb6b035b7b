import Winnow.Proofs.Number.Digits
import Winnow.Proofs.Number.Rounding

/-!
# Shortest decimals are read back

The decimal that is found for a float lies in its rounding interval, so the float is the one that is
nearest to it.

* `scaled_le` — the comparisons of the search compare exact values.
* `Interval.nearest_of_holds` — what lies in the rounding interval rounds to the float.
* `gridFloor`, `step_lt_width`, `Interval.isSome_onGrid` — a grid of seventeen digits meets the
  interval.
* `unitFloor`, `ten_zpow_magnitude_le` — the power of ten that the search starts from.
* `nearest_shortest` — the shortest decimal rounds to the float.
-/

namespace Winnow.Shortest

open Parts (Canonical)
open Rounding (Nearest two_zpow_pos)

/-! ## Exact comparisons -/

theorem zpow_mul_toNat {b : ℚ} (hb : b ≠ 0) (n : ℤ) : b ^ n * b ^ (-n).toNat = b ^ n.toNat := by
  rw [← zpow_natCast, ← zpow_natCast, ← zpow_add₀ hb]
  congr 1
  omega

/-- The common denominator of `m * 2 ^ q / 4` and `d * 10 ^ k`. -/
def denominator (q k : ℤ) : ℚ := 4 * 2 ^ (-q).toNat * 10 ^ (-k).toNat

theorem denominator_pos (q k : ℤ) : 0 < denominator q k := by
  unfold denominator
  positivity

theorem binary_mul_denominator (a : ℕ) (q k : ℤ) :
    (a : ℚ) / 4 * 2 ^ q * denominator q k = (a * 2 ^ q.toNat * 10 ^ (-k).toNat : ℕ) := by
  push_cast
  rw [← zpow_mul_toNat (by norm_num) q, denominator]
  ring

theorem decimal_mul_denominator (d : ℕ) (q k : ℤ) :
    (d : ℚ) * 10 ^ k * denominator q k = (d * 10 ^ k.toNat * (4 * 2 ^ (-q).toNat) : ℕ) := by
  push_cast
  rw [← zpow_mul_toNat (by norm_num) k, denominator]
  ring

theorem scaled_le (a d : ℕ) (q k : ℤ) :
    a * 2 ^ q.toNat * 10 ^ (-k).toNat ≤ d * 10 ^ k.toNat * (4 * 2 ^ (-q).toNat) ↔
      (a : ℚ) / 4 * 2 ^ q ≤ d * 10 ^ k := by
  rw [← mul_le_mul_iff_of_pos_right (denominator_pos q k), binary_mul_denominator,
    decimal_mul_denominator, Nat.cast_le]

theorem scaled_ge (a d : ℕ) (q k : ℤ) :
    d * 10 ^ k.toNat * (4 * 2 ^ (-q).toNat) ≤ a * 2 ^ q.toNat * 10 ^ (-k).toNat ↔
      (d : ℚ) * 10 ^ k ≤ a / 4 * 2 ^ q := by
  rw [← mul_le_mul_iff_of_pos_right (denominator_pos q k), binary_mul_denominator,
    decimal_mul_denominator, Nat.cast_le]

/-! ## The rounding interval -/

/-- The distance from a float to the lower end of its rounding interval, in quarters of the distance
to the next float. -/
def lowGap (m : ℕ) (q : ℤ) : ℕ := if m = 2 ^ 52 ∧ -1074 < q then 1 else 2

theorem Interval.holds_eq_true (i : Interval) (d : ℕ) (k : ℤ) :
    i.holds d k = true ↔
      if i.closed then
        i.low * 10 ^ (-k).toNat ≤ d * 10 ^ k.toNat * i.scale ∧
          d * 10 ^ k.toNat * i.scale ≤ i.high * 10 ^ (-k).toNat
      else
        i.low * 10 ^ (-k).toNat < d * 10 ^ k.toNat * i.scale ∧
          d * 10 ^ k.toNat * i.scale < i.high * 10 ^ (-k).toNat := by
  rw [Interval.holds]
  split_ifs <;> simp

theorem Interval.holds_iff (m : ℕ) (q : ℤ) (d : ℕ) (k : ℤ) :
    (ofParts m q).holds d k = true ↔
      if m % 2 = 0 then
        ((4 * m - lowGap m q : ℕ) : ℚ) / 4 * 2 ^ q ≤ d * 10 ^ k ∧
          (d : ℚ) * 10 ^ k ≤ ((4 * m + 2 : ℕ) : ℚ) / 4 * 2 ^ q
      else
        ((4 * m - lowGap m q : ℕ) : ℚ) / 4 * 2 ^ q < d * 10 ^ k ∧
          (d : ℚ) * 10 ^ k < ((4 * m + 2 : ℕ) : ℚ) / 4 * 2 ^ q := by
  rw [← scaled_le, ← scaled_ge, ← not_le, ← not_le, ← scaled_ge, ← scaled_le, not_le, not_le,
    holds_eq_true]
  simp only [ofParts, lowGap, beq_iff_eq, Nat.pow_eq]

theorem cast_sub_lowGap {m : ℕ} (hp : 0 < m) (q : ℤ) :
    ((4 * m - lowGap m q : ℕ) : ℚ) = 4 * m - lowGap m q := by
  rw [Nat.cast_sub (by rw [lowGap]; split_ifs <;> omega)]
  push_cast
  ring

/-- What lies in the rounding interval of a float rounds to it. -/
theorem Interval.nearest_of_holds {m d : ℕ} {q k : ℤ} (hp : 0 < m)
    (h : (ofParts m q).holds d k = true) : Nearest m q (d * 10 ^ k) := by
  have hq := two_zpow_pos q
  have hgap : (lowGap m q : ℚ) ≤ 2 := by
    rw [lowGap]
    split_ifs <;> norm_num
  rw [holds_iff, cast_sub_lowGap hp] at h
  push_cast at h
  have hweak : (4 * m - lowGap m q : ℚ) / 4 * 2 ^ q ≤ d * 10 ^ k ∧
      (d : ℚ) * 10 ^ k ≤ (4 * m + 2) / 4 * 2 ^ q := by
    split_ifs at h
    · exact h
    · exact ⟨h.1.le, h.2.le⟩
  have hends : ((m : ℚ) - 1 / 2) * 2 ^ q ≤ (4 * m - lowGap m q) / 4 * 2 ^ q ∧
      ((4 * m + 2) / 4 : ℚ) * 2 ^ q = (m + 1 / 2) * 2 ^ q := by
    constructor
    · exact mul_le_mul_of_nonneg_right (by linarith) hq.le
    · ring
  refine ⟨hends.1.trans hweak.1, hweak.2.trans hends.2.le, fun hodd => ?_, fun hm hlow => ?_⟩
  · rw [if_neg (by omega)] at h
    exact ⟨lt_of_le_of_lt hends.1 h.1, lt_of_lt_of_le h.2 hends.2.le⟩
  · have hone : lowGap m q = 1 := if_pos ⟨hm, hlow⟩
    rw [hone] at hweak
    convert hweak.1 using 2
    push_cast
    ring

/-! ## Grids -/

theorem Interval.holds_of_onGrid {i : Interval} {k : ℤ} {d : ℕ} (h : i.onGrid k = some d) :
    i.holds d k = true := by
  simp only [Interval.onGrid] at h
  split at h
  · next h1 h2 =>
      split_ifs at h
      · rwa [← Option.some.inj h]
      · rwa [← Option.some.inj h]
  · next h1 _ => rwa [← Option.some.inj h]
  · next _ h2 => rwa [← Option.some.inj h]
  · cases h

theorem Interval.isSome_onGrid_of_holds {i : Interval} {k : ℤ}
    (h : i.holds (i.value * 10 ^ (-k).toNat / (i.scale * 10 ^ k.toNat)) k = true ∨
      i.holds (i.value * 10 ^ (-k).toNat / (i.scale * 10 ^ k.toNat) + 1) k = true) :
    (i.onGrid k).isSome = true := by
  simp only [Interval.onGrid, Nat.pow_eq]
  split
  · split_ifs <;> rfl
  · rfl
  · rfl
  · next h1 h2 => simp [h1, h2] at h

theorem Interval.holds_of_inside {m d : ℕ} {q k : ℤ} (hp : 0 < m)
    (hlow : (4 * m - lowGap m q : ℚ) / 4 * 2 ^ q < d * 10 ^ k)
    (hhigh : (d : ℚ) * 10 ^ k < (4 * m + 2) / 4 * 2 ^ q) : (ofParts m q).holds d k = true := by
  rw [holds_iff, cast_sub_lowGap hp]
  push_cast
  split_ifs
  · exact ⟨hlow.le, hhigh.le⟩
  · exact ⟨hlow, hhigh⟩

/-- The last decimal of a grid that is not above the value of a float. -/
def gridFloor (m : ℕ) (q k : ℤ) : ℕ :=
  4 * m * 2 ^ q.toNat * 10 ^ (-k).toNat / (4 * 2 ^ (-q).toNat * 10 ^ k.toNat)

theorem gridFloor_le (m : ℕ) (q k : ℤ) : (gridFloor m q k : ℚ) * 10 ^ k ≤ m * 2 ^ q := by
  have hscaled : (gridFloor m q k : ℚ) * 10 ^ k ≤ (4 * m : ℕ) / 4 * 2 ^ q := by
    rw [← scaled_ge, gridFloor]
    calc _ = _ / _ * (4 * 2 ^ (-q).toNat * 10 ^ k.toNat) := by ring
      _ ≤ _ := Nat.div_mul_le_self _ _
  push_cast at hscaled
  linarith

theorem lt_gridFloor_add_one (m : ℕ) (q k : ℤ) :
    (m : ℚ) * 2 ^ q < (gridFloor m q k + 1) * 10 ^ k := by
  have hpos : 0 < 4 * 2 ^ (-q).toNat * 10 ^ k.toNat := by positivity
  have hscaled : ((4 * m : ℕ) : ℚ) / 4 * 2 ^ q < (gridFloor m q k + 1 : ℕ) * 10 ^ k := by
    rw [← not_le, ← scaled_ge, not_le, gridFloor]
    calc _ < 4 * 2 ^ (-q).toNat * 10 ^ k.toNat * (_ / _ + 1) := Nat.lt_mul_div_succ _ hpos
      _ = _ := by ring
  push_cast at hscaled
  linarith

/-- The interval is wider than a step of a grid that has sixteen steps of ten below the value. -/
theorem step_lt_width {m : ℕ} {q k : ℤ} (hc : Canonical m q)
    (hk : (10 : ℚ) ^ k * 10 ^ 16 ≤ m * 2 ^ q) : (10 : ℚ) ^ k < (lowGap m q + 2) / 4 * 2 ^ q := by
  have hq := two_zpow_pos q
  have hm : (m : ℚ) + 1 ≤ 2 ^ 53 := by exact_mod_cast hc.lt
  rw [lowGap]
  split_ifs with hpow
  · rw [hpow.1] at hk
    push_cast at hk ⊢
    nlinarith
  · push_cast
    nlinarith

/-- So one of the two neighbours of the value lies in the interval. -/
theorem Interval.isSome_onGrid {m : ℕ} {q k : ℤ} (hp : 0 < m) (hc : Canonical m q)
    (hk : (10 : ℚ) ^ k * 10 ^ 16 ≤ m * 2 ^ q) : ((ofParts m q).onGrid k).isSome = true := by
  apply isSome_onGrid_of_holds
  change (ofParts m q).holds (gridFloor m q k) k = true ∨
    (ofParts m q).holds (gridFloor m q k + 1) k = true
  have hq := two_zpow_pos q
  have hdown := gridFloor_le m q k
  have hup := lt_gridFloor_add_one m q k
  have hwide := step_lt_width hc hk
  by_contra hnone
  push Not at hnone
  have hbelow : (gridFloor m q k : ℚ) * 10 ^ k ≤ (4 * m - lowGap m q) / 4 * 2 ^ q := by
    by_contra h
    exact hnone.1 (holds_of_inside hp (not_le.1 h) (by linarith))
  have habove : ((4 * m + 2) / 4 : ℚ) * 2 ^ q ≤ (gridFloor m q k + 1) * 10 ^ k := by
    by_contra h
    have hgap : (0 : ℚ) ≤ lowGap m q / 4 * 2 ^ q := by positivity
    refine hnone.2 (holds_of_inside hp ?_ ?_)
    · push_cast
      linarith
    · push_cast
      exact not_le.1 h
  -- both neighbours lie outside, so a step of the grid is as wide as the interval
  linarith

/-- The value of a float in units of `10 ^ -400`, rounded down. -/
def unitFloor (m : ℕ) (q : ℤ) : ℕ := 4 * m * 2 ^ q.toNat * 10 ^ 400 / (4 * 2 ^ (-q).toNat)

theorem Interval.magnitude_eq (m : ℕ) (q : ℤ) :
    (ofParts m q).magnitude = ((Text.decimal (unitFloor m q)).length : ℤ) - 401 := by
  have hpow : ∀ b n : ℕ, Nat.pow b n = b ^ n := fun _ _ => rfl
  simp only [magnitude, ofParts, hpow, unitFloor]

/-- Eight is less than ten. -/
theorem two_pow_le_ten_pow (n : ℕ) : 2 ^ (3 * n) ≤ 10 ^ n := by
  rw [pow_mul]
  exact Nat.pow_le_pow_left (by norm_num) n

/-- Every float other than zero is at least one such unit. -/
theorem unitFloor_pos {m : ℕ} {q : ℤ} (hp : 0 < m) (hleast : -1074 ≤ q) : 0 < unitFloor m q := by
  refine Nat.div_pos ?_ (by positivity)
  calc 4 * 2 ^ (-q).toNat ≤ 4 * 2 ^ (3 * 400) :=
        Nat.mul_le_mul_left _ (Nat.pow_le_pow_right (by norm_num) (by omega))
    _ ≤ 4 * 10 ^ 400 := Nat.mul_le_mul_left _ (two_pow_le_ten_pow 400)
    _ ≤ 4 * m * 2 ^ q.toNat * 10 ^ 400 := by
        refine Nat.mul_le_mul_right _ ?_
        have : 0 < 2 ^ q.toNat := by positivity
        nlinarith

theorem unitFloor_le (m : ℕ) (q : ℤ) : (unitFloor m q : ℚ) ≤ m * 2 ^ q * 10 ^ 400 := by
  have hscaled : (unitFloor m q : ℚ) * (4 * 2 ^ (-q).toNat) ≤ 4 * m * 2 ^ q.toNat * 10 ^ 400 := by
    exact_mod_cast Nat.div_mul_le_self (4 * m * 2 ^ q.toNat * 10 ^ 400) (4 * 2 ^ (-q).toNat)
  rw [← zpow_mul_toNat (by norm_num) q] at hscaled
  have hunit : (0 : ℚ) < 4 * 2 ^ (-q).toNat := by positivity
  generalize (10 : ℚ) ^ 400 = power at hscaled ⊢
  refine le_of_mul_le_mul_right (hscaled.trans_eq ?_) hunit
  ring

/-- The greatest power of ten that the search starts from is not above the value. -/
theorem ten_zpow_magnitude_le {m : ℕ} {q : ℤ} (hp : 0 < m) (hleast : -1074 ≤ q) :
    (10 : ℚ) ^ (Interval.ofParts m q).magnitude ≤ m * 2 ^ q := by
  have hpow : (10 : ℚ) ^ ((Text.decimal (unitFloor m q)).length - 1) ≤ unitFloor m q := by
    exact_mod_cast Text.pow_length_decimal_le (unitFloor_pos hp hleast)
  have hone : 1 ≤ (Text.decimal (unitFloor m q)).length := Text.length_decimal_pos
  rw [Interval.magnitude_eq, show ((Text.decimal (unitFloor m q)).length : ℤ) - 401 =
      (((Text.decimal (unitFloor m q)).length - 1 : ℕ) : ℤ) - (400 : ℕ) by omega,
    zpow_sub₀ (by norm_num), zpow_natCast, zpow_natCast, div_le_iff₀ (by positivity)]
  exact hpow.trans (unitFloor_le m q)

/-! ## The search -/

theorem Interval.nearest_search {m : ℕ} {q : ℤ} (hp : 0 < m) (hc : Canonical m q) {more digits : ℕ}
    (h : more + digits = 17) :
    Nearest m q (((ofParts m q).search (ofParts m q).magnitude more digits).1 *
      10 ^ ((ofParts m q).search (ofParts m q).magnitude more digits).2) := by
  induction more generalizing digits with
  | zero =>
      obtain rfl : digits = 17 := by omega
      have hk : (10 : ℚ) ^ ((ofParts m q).magnitude - (17 : ℕ) + 1) * 10 ^ 16 ≤ m * 2 ^ q := by
        refine le_trans (le_of_eq ?_) (ten_zpow_magnitude_le hp hc.least)
        rw [← zpow_natCast, ← zpow_add₀ (by norm_num)]
        congr 1
        push_cast
        ring
      obtain ⟨d, hd⟩ := Option.isSome_iff_exists.1 (isSome_onGrid hp hc hk)
      rw [search, hd]
      exact nearest_of_holds hp (holds_of_onGrid hd)
  | succ more ih =>
      rw [search]
      cases hd : (ofParts m q).onGrid ((ofParts m q).magnitude - digits + 1) with
      | some d => exact nearest_of_holds hp (holds_of_onGrid hd)
      | none => exact ih (by omega)

theorem dropZeros_value (fuel d : ℕ) (k : ℤ) :
    ((dropZeros fuel d k).1 : ℚ) * 10 ^ (dropZeros fuel d k).2 = d * 10 ^ k := by
  induction fuel generalizing d k with
  | zero => rfl
  | succ fuel ih =>
      rw [dropZeros]
      split_ifs with h
      · have hd : (d : ℚ) = (d / 10 : ℕ) * 10 := by
          exact_mod_cast (Nat.div_mul_cancel (Nat.dvd_of_mod_eq_zero h.1)).symm
        rw [ih, hd, zpow_add_one₀ (by norm_num)]
        ring
      · rfl

/-- **The shortest decimal of a float rounds to the float.** -/
theorem nearest_shortest {m : ℕ} {q : ℤ} (hp : 0 < m) (hc : Canonical m q) :
    Nearest m q ((shortest m q).1 * 10 ^ (shortest m q).2) := by
  rw [shortest]
  dsimp only
  rw [dropZeros_value]
  exact Interval.nearest_search hp hc rfl

end Winnow.Shortest
