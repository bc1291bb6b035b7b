import Winnow.Proofs.Number.Bits

/-!
# Rounding to floats

The arithmetic of floats computes a truncated significand with two bits that say what was cut off,
and rounds it at the end. This file says what comes out in terms of exact values.

* `TruncationOf` — what a truncated significand says of an exact value; shifting keeps it true.
* `Nearest` — the exact values that a float is the nearest to.
* `roundWithAccuracy_eq` — rounding finds the float that is the nearest.
-/

namespace Winnow.Rounding

open Float.Model Float.Model.UnpackedFloat
open Parts (Canonical)

/-! ## Truncated significands -/

/-- What a truncated significand says of the exact value `x`: its whole part and, by two bits, on
which side of the middle to the next integer `x` lies, or that it lies at one of these points. -/
def TruncationOf (em : ExtendedMantissa) (x : ℚ) : Prop :=
  if em.roundBit = em.stickyBit ∧ em.roundBit = false then x = em.mantissa
  else if em.roundBit = false then (em.mantissa : ℚ) < x ∧ x < em.mantissa + 1 / 2
  else if em.stickyBit = false then x = em.mantissa + 1 / 2
  else (em.mantissa : ℚ) + 1 / 2 < x ∧ x < em.mantissa + 1

theorem TruncationOf.floor {em : ExtendedMantissa} {x : ℚ} (h : TruncationOf em x) :
    (em.mantissa : ℚ) ≤ x ∧ x < em.mantissa + 1 := by
  obtain ⟨m, r, s⟩ := em
  cases r <;> cases s <;> simp [TruncationOf] at h ⊢ <;> constructor <;> linarith

/-- Halving keeps the record exact. -/
theorem TruncationOf.shiftRightOne {em : ExtendedMantissa} {x : ℚ} (h : TruncationOf em x) :
    TruncationOf em.shiftRightOne (x / 2) := by
  obtain ⟨m, r, s⟩ := em
  have hm : (m : ℚ) = 2 * (m / 2 : Nat) + (m % 2 : Nat) := by
    exact_mod_cast (Nat.div_add_mod m 2).symm
  rcases Nat.mod_two_eq_zero_or_one m with h2 | h2 <;> rw [h2] at hm <;> push_cast at hm <;>
    cases r <;> cases s <;> simp [TruncationOf, ExtendedMantissa.shiftRightOne, h2] at h ⊢ <;>
    first
      | linarith
      | constructor <;> linarith

theorem TruncationOf.shiftRight {em : ExtendedMantissa} {x : ℚ} (h : TruncationOf em x) (n : ℕ) :
    TruncationOf (em >>> n) (x / 2 ^ n) := by
  change TruncationOf (n.repeat ExtendedMantissa.shiftRightOne em) _
  induction n with
  | zero => simpa [Nat.repeat] using h
  | succ n ih =>
      rw [Nat.repeat, pow_succ, ← div_div]
      exact ih.shiftRightOne

/-- A truncated significand rounds to the integer that is nearest to the exact value, and to the
even one of two. -/
theorem TruncationOf.roundedMantissa {em : ExtendedMantissa} {x : ℚ} {r : ℕ}
    (h : TruncationOf em x) (hlo : (r : ℚ) - 1 / 2 ≤ x) (hhi : x ≤ r + 1 / 2)
    (hodd : r % 2 = 1 → (r : ℚ) - 1 / 2 < x ∧ x < r + 1 / 2) : em.roundedMantissa = r := by
  obtain ⟨m, b, s⟩ := em
  simp only [ExtendedMantissa.roundedMantissa]
  cases b <;> cases s <;>
    simp only [TruncationOf, ExtendedMantissa.accuracy, Accuracy.roundToNearestEven] at h ⊢ <;>
    norm_num at h
  · have h1 : (m : ℚ) < r + 1 := by linarith
    have h2 : (r : ℚ) < m + 1 := by linarith
    norm_cast at h1 h2
    omega
  · have h1 : (m : ℚ) < r + 1 := by linarith
    have h2 : (r : ℚ) < m + 1 := by linarith
    norm_cast at h1 h2
    omega
  · -- in the middle between two integers, of which `r` is the even one
    have h1 : (m : ℚ) ≤ r := by linarith
    have h2 : (r : ℚ) ≤ m + 1 := by linarith
    norm_cast at h1 h2
    rcases Nat.mod_two_eq_zero_or_one r with h0 | h0
    · omega
    · obtain ⟨h3, h4⟩ := hodd h0
      have h3 : (r : ℚ) < m + 1 := by linarith
      have h4 : (m : ℚ) < r := by linarith
      norm_cast at h3 h4
      omega
  · have h1 : (m : ℚ) < r := by linarith
    have h2 : (r : ℚ) < m + 2 := by linarith
    norm_cast at h1 h2
    omega

/-! ## The nearest float -/

/-- The values that the float `m * 2 ^ q` is the nearest to: none is further away than half the way
to the next float, and at exactly half the way `m` is even. Below a power of two the floats lie
twice as close. -/
structure Nearest (m : ℕ) (q : ℤ) (v : ℚ) : Prop where
  above : ((m : ℚ) - 1 / 2) * 2 ^ q ≤ v
  below : v ≤ ((m : ℚ) + 1 / 2) * 2 ^ q
  odd : m % 2 = 1 → ((m : ℚ) - 1 / 2) * 2 ^ q < v ∧ v < ((m : ℚ) + 1 / 2) * 2 ^ q
  power : m = 2 ^ 52 → -1074 < q → ((m : ℚ) - 1 / 4) * 2 ^ q ≤ v

theorem two_zpow_pos (e : ℤ) : (0 : ℚ) < 2 ^ e := zpow_pos (by norm_num) e

theorem two_zpow_lt_iff {a b : ℤ} : (2 : ℚ) ^ a < 2 ^ b ↔ a < b :=
  zpow_lt_zpow_iff_right₀ (by norm_num)

theorem two_zpow_add (a b : ℤ) : (2 : ℚ) ^ (a + b) = 2 ^ a * 2 ^ b :=
  zpow_add₀ (by norm_num) a b

section

variable {m : ℕ} {q e : ℤ} {v : ℚ}

theorem Nearest.lt_two_zpow (hn : Nearest m q v) (hc : Canonical m q) : v < 2 ^ (53 + q) := by
  have hm : (m : ℚ) + 1 ≤ 2 ^ 53 := by exact_mod_cast hc.lt
  calc v ≤ ((m : ℚ) + 1 / 2) * 2 ^ q := hn.below
    _ < 2 ^ 53 * 2 ^ q := mul_lt_mul_of_pos_right (by linarith) (two_zpow_pos q)
    _ = 2 ^ (53 + q) := by rw [two_zpow_add]; norm_num

/-- Above a power of two a float is nearest to values that are not below that power. -/
theorem Nearest.two_zpow_le (hn : Nearest m q v) (hm : 2 ^ 52 < m) : 2 ^ (52 + q) ≤ v := by
  have hm : (2 : ℚ) ^ 52 + 1 ≤ m := by exact_mod_cast hm
  calc (2 : ℚ) ^ (52 + q) = 2 ^ 52 * 2 ^ q := by rw [two_zpow_add]; norm_num
    _ ≤ ((m : ℚ) - 1 / 2) * 2 ^ q := mul_le_mul_of_nonneg_right (by linarith) (two_zpow_pos q).le
    _ ≤ v := hn.above

/-- A power of two is nearest to values above the power before. -/
theorem Nearest.two_zpow_lt (hn : Nearest m q v) (hm : m = 2 ^ 52) (hq : -1074 < q) :
    2 ^ (51 + q) < v := by
  calc (2 : ℚ) ^ (51 + q) = 2 ^ 51 * 2 ^ q := by rw [two_zpow_add]; norm_num
    _ < ((m : ℚ) - 1 / 4) * 2 ^ q := by
        refine mul_lt_mul_of_pos_right ?_ (two_zpow_pos q)
        rw [hm]
        norm_num
    _ ≤ v := hn.power hm hq

/-- The floats nearest to very small values have the least exponent. -/
theorem Nearest.eq_least (hn : Nearest m q v) (hc : Canonical m q) (he : e ≤ -1074)
    (hv : v < 2 ^ e) : q = -1074 := by
  by_contra hne
  have hm : (2 : ℚ) ^ 52 ≤ m := by exact_mod_cast hc.full.resolve_right hne
  have hlt : (2 : ℚ) ^ q < 2 ^ e := by
    calc (2 : ℚ) ^ q ≤ ((m : ℚ) - 1 / 2) * 2 ^ q :=
          le_mul_of_one_le_left (two_zpow_pos q).le (by linarith)
      _ ≤ v := hn.above
      _ < 2 ^ e := hv
  have hqe := two_zpow_lt_iff.1 hlt
  have hleast := hc.least
  omega

end

/-- The exponent that rounding shifts to. -/
def shiftedTo (mantissa : ℕ) (e : ℤ) : ℤ := max ((mantissa.log2 : ℤ) + e - 52) (-1074)

theorem targetExponent_eq (mantissa : ℕ) (e : ℤ) :
    Format.binary64.targetExponent (totalExponent mantissa e) = shiftedTo mantissa e := by
  change max ((mantissa.log2 : ℤ) + 1 + e - 53) (-1074) = _
  rw [shiftedTo]
  congr 1
  ring

/-- A record that is fine enough gives the powers of two between which the exact value lies. -/
theorem log2_bounds {em : ExtendedMantissa} {e : ℤ} {v : ℚ} (h : TruncationOf em (v / 2 ^ e))
    (hm : em.mantissa ≠ 0) :
    (2 : ℚ) ^ ((em.mantissa.log2 : ℤ) + e) ≤ v ∧ v < 2 ^ ((em.mantissa.log2 : ℤ) + 1 + e) := by
  have hp := two_zpow_pos e
  obtain ⟨h1, h2⟩ := h.floor
  rw [le_div_iff₀ hp] at h1
  rw [div_lt_iff₀ hp] at h2
  have hl : ((2 ^ em.mantissa.log2 : ℕ) : ℚ) ≤ em.mantissa := by
    exact_mod_cast Nat.log2_self_le hm
  have hu : (em.mantissa : ℚ) + 1 ≤ ((2 ^ (em.mantissa.log2 + 1) : ℕ) : ℚ) := by
    exact_mod_cast Nat.lt_log2_self
  push_cast at hl hu
  rw [two_zpow_add, two_zpow_add, zpow_natCast]
  constructor
  · exact le_trans (mul_le_mul_of_nonneg_right hl hp.le) h1
  · refine lt_of_lt_of_le h2 (mul_le_mul_of_nonneg_right ?_ hp.le)
    exact_mod_cast hu

/-- A record without digits is shifted to the least exponent, which is that of the nearest float. -/
theorem shiftedTo_of_zero {em : ExtendedMantissa} {e q : ℤ} {m : ℕ} {v : ℚ}
    (h : TruncationOf em (v / 2 ^ e)) (hz : em.mantissa = 0) (he : e ≤ -1074) (hc : Canonical m q)
    (hn : Nearest m q v) : shiftedTo em.mantissa e = q := by
  have hv : v < 2 ^ e := by
    have := h.floor.2
    rwa [hz, Nat.cast_zero, zero_add, div_lt_iff₀ (two_zpow_pos e), one_mul] at this
  rw [shiftedTo, hz, hn.eq_least hc he hv]
  simp
  omega

/-- Rounding shifts a value to the exponent of the nearest float, or, just below a power of two, to
the one before. -/
theorem shiftedTo_of_nearest {em : ExtendedMantissa} {e q : ℤ} {m : ℕ} {v : ℚ}
    (h : TruncationOf em (v / 2 ^ e)) (hfine : 2 ^ 52 ≤ em.mantissa ∨ e ≤ -1074)
    (hc : Canonical m q) (hn : Nearest m q v) :
    shiftedTo em.mantissa e = q ∨
      m = 2 ^ 52 ∧ -1074 < q ∧ v < 2 ^ (52 + q) ∧ shiftedTo em.mantissa e = q - 1 := by
  by_cases hz : em.mantissa = 0
  · exact .inl (shiftedTo_of_zero h hz (by omega) hc hn)
  obtain ⟨h1, h2⟩ := log2_bounds h hz
  have hupper := two_zpow_lt_iff.1 (lt_of_le_of_lt h1 (hn.lt_two_zpow hc))
  have hleast := hc.least
  rw [shiftedTo]
  rcases hc.full with hfull | hsub
  · by_cases hv : v < 2 ^ (52 + q)
    · -- the value is nearest to a power of two and lies below it
      have h52 : m = 2 ^ 52 := by
        by_contra hne
        exact absurd (hn.two_zpow_le (by omega)) (not_le.2 hv)
      have hhigh := two_zpow_lt_iff.1 (lt_of_le_of_lt h1 hv)
      by_cases hsub : q = -1074
      · left
        omega
      · have hlow := two_zpow_lt_iff.1 (lt_trans (hn.two_zpow_lt h52 (by omega)) h2)
        exact .inr ⟨h52, by omega, hv, by omega⟩
    · have hlow := two_zpow_lt_iff.1 (lt_of_le_of_lt (not_lt.1 hv) h2)
      left
      omega
  · left
    omega

theorem shiftToTargetExponent_eq {mantissa : ℕ} {e : ℤ} (acc : Accuracy)
    (he : e ≤ shiftedTo mantissa e) :
    shiftToTargetExponent Format.binary64 mantissa e acc =
      (ExtendedMantissa.ofMantissaAndAccuracy mantissa acc >>> (shiftedTo mantissa e - e).toNat,
        shiftedTo mantissa e) := by
  rw [shiftToTargetExponent, targetExponent_eq, shiftToExponent]
  congr 1
  omega

theorem shiftToTargetExponent_small {r : ℕ} {e : ℤ} (hr : r < 2 ^ 53) (he : -1074 ≤ e) :
    shiftToTargetExponent Format.binary64 r e .exact = (⟨r, false, false⟩, e) := by
  have hl : r.log2 ≤ 52 := by
    by_cases hz : r = 0
    · simp [hz]
    · have := (Nat.log2_lt hz).2 hr
      omega
  have hs : (shiftedTo r e - e).toNat = 0 := by
    rw [shiftedTo]
    omega
  rw [shiftToTargetExponent, targetExponent_eq, shiftToExponent, hs]
  simp
  rfl

theorem shiftToTargetExponent_carry {e : ℤ} (he : -1074 ≤ e) :
    shiftToTargetExponent Format.binary64 (2 ^ 53) e .exact = (⟨2 ^ 52, false, false⟩, e + 1) := by
  have hs : shiftedTo (2 ^ 53) e = e + 1 := by
    rw [shiftedTo, Nat.log2_two_pow]
    omega
  rw [shiftToTargetExponent_eq _ (by omega), hs, show (e + 1 - e).toNat = 1 by omega]
  rfl

@[simp] theorem mantissa_ofMantissaAndAccuracy (mantissa : ℕ) (acc : Accuracy) :
    (ExtendedMantissa.ofMantissaAndAccuracy mantissa acc).mantissa = mantissa := by
  rcases acc with _ | o
  · rfl
  · cases o <;> rfl

/-- The first shift of a rounding, with the record that it leaves. -/
theorem exists_shifted {mantissa : ℕ} {e : ℤ} {acc : Accuracy} {v : ℚ}
    (hv : TruncationOf (ExtendedMantissa.ofMantissaAndAccuracy mantissa acc) (v / 2 ^ e))
    (he : e ≤ shiftedTo mantissa e) :
    ∃ em, shiftToTargetExponent Format.binary64 mantissa e acc = (em, shiftedTo mantissa e) ∧
      TruncationOf em (v / 2 ^ shiftedTo mantissa e) := by
  refine ⟨_, shiftToTargetExponent_eq acc he, ?_⟩
  have h := hv.shiftRight (shiftedTo mantissa e - e).toNat
  have hsplit : (2 : ℚ) ^ shiftedTo mantissa e = 2 ^ e * 2 ^ (shiftedTo mantissa e - e).toNat := by
    rw [← zpow_natCast, ← two_zpow_add]
    congr 1
    omega
  rwa [div_div, ← hsplit] at h

/-- A mantissa that is fine enough is shifted down, not up. -/
theorem le_shiftedTo {mantissa : ℕ} {e : ℤ} (hfine : 2 ^ 52 ≤ mantissa ∨ e ≤ -1074) :
    e ≤ shiftedTo mantissa e := by
  rw [shiftedTo]
  rcases hfine with h | h
  · have := (Nat.le_log2 (by omega : mantissa ≠ 0)).2 h
    omega
  · omega

/-- At the exponent of the nearest float the mantissa is rounded to that of the float. -/
theorem Nearest.roundedMantissa {em : ExtendedMantissa} {m : ℕ} {q : ℤ} {v : ℚ}
    (hn : Nearest m q v) (hrec : TruncationOf em (v / 2 ^ q)) : em.roundedMantissa = m := by
  have hq := two_zpow_pos q
  refine hrec.roundedMantissa ?_ ?_ fun hodd => ?_
  · exact (le_div_iff₀ hq).2 hn.above
  · exact (div_le_iff₀ hq).2 hn.below
  · exact ⟨(lt_div_iff₀ hq).2 (hn.odd hodd).1, (div_lt_iff₀ hq).2 (hn.odd hodd).2⟩

/-- Just below a power of two the mantissa is rounded up to it. -/
theorem Nearest.roundedMantissa_carry {em : ExtendedMantissa} {q : ℤ} {v : ℚ}
    (hn : Nearest (2 ^ 52) q v) (hq : -1074 < q) (hlt : v < 2 ^ (52 + q))
    (hrec : TruncationOf em (v / 2 ^ (q - 1))) : em.roundedMantissa = 2 ^ 53 := by
  have hpos := two_zpow_pos q
  have hlow := hn.power rfl hq
  have hhigh : v < 2 ^ 52 * 2 ^ q := by
    rw [two_zpow_add] at hlt
    exact_mod_cast hlt
  rw [zpow_sub₀ (by norm_num), zpow_one] at hrec
  refine hrec.roundedMantissa ?_ ?_ fun hodd => absurd hodd (by norm_num)
  · rw [le_div_iff₀ (by positivity)]
    push_cast at hlow ⊢
    linarith
  · rw [div_le_iff₀ (by positivity)]
    push_cast
    linarith

/-- **A value is rounded to the float that it is nearest to.** -/
theorem roundWithAccuracy_eq (sign : Sign) {mantissa m : ℕ} {e q : ℤ} {acc : Accuracy} {v : ℚ}
    (hv : TruncationOf (ExtendedMantissa.ofMantissaAndAccuracy mantissa acc) (v / 2 ^ e))
    (hfine : 2 ^ 52 ≤ mantissa ∨ e ≤ -1074) (hp : 0 < m) (hc : Canonical m q) (hn : Nearest m q v) :
    roundWithAccuracy Format.binary64 sign mantissa e acc = .finite sign m q hp := by
  obtain ⟨em, hem, hrec⟩ := exists_shifted hv (le_shiftedTo hfine)
  have hcases := shiftedTo_of_nearest hv (by simpa using hfine) hc hn
  rw [mantissa_ofMantissaAndAccuracy] at hcases
  rw [roundWithAccuracy, hem]
  rcases hcases with hs | ⟨rfl, hsub, hlt, hs⟩
  · rw [hs] at hrec
    simp only [hn.roundedMantissa hrec, hs, shiftToTargetExponent_small hc.lt hc.least, hp.ne',
      dif_neg, not_false_iff]
  · rw [hs] at hrec
    have hone : q - 1 + 1 = q := by ring
    simp only [hn.roundedMantissa_carry hsub hlt hrec, hs,
      shiftToTargetExponent_carry (by omega : -1074 ≤ q - 1), hone]
    rfl

end Winnow.Rounding
