import Winnow.Proofs.Number.Rounding

/-!
# Reading decimals as floats

A decimal is turned into a float by a product or a quotient with a power of ten. Small operands are
taken as floats, for which the powers of ten are kept ready; the others as exact integers.

* `mul_eq`, `div_eq` — products and quotients are rounded to the nearest float.
* `ofScientific_eq` — the way of exact integers.
* `ofFloat_ofScientific` — the float that is read from a decimal is the nearest to it.
-/

namespace Winnow.Rounding

open Float.Model Float.Model.UnpackedFloat
open Parts (Canonical)

/-! ## Products and quotients -/

theorem truncationOf_exact (n : ℕ) :
    TruncationOf (ExtendedMantissa.ofMantissaAndAccuracy n .exact) n := by
  simp [TruncationOf, ExtendedMantissa.ofMantissaAndAccuracy]

/-- The quotient of integers with what its remainder says. -/
theorem truncationOf_fraction (n : ℕ) {d : ℕ} (hd : 0 < d) :
    TruncationOf (ExtendedMantissa.ofMantissaAndAccuracy (n / d) (accuracyOfFraction (n % d) d))
      (n / d : ℚ) := by
  have hd' : (0 : ℚ) < d := by exact_mod_cast hd
  have hlt : ((n % d : ℕ) : ℚ) < d := by exact_mod_cast Nat.mod_lt n hd
  have hx : (n : ℚ) / d = (n / d : ℕ) + (n % d : ℕ) / d := by
    have hsplit : (n : ℚ) = d * (n / d : ℕ) + (n % d : ℕ) := by
      exact_mod_cast (Nat.div_add_mod n d).symm
    rw [eq_comm, ← eq_sub_iff_add_eq', ← sub_eq_zero]
    field_simp
    linarith
  rw [hx]
  by_cases hr : n % d = 0
  · simp [accuracyOfFraction, hr, TruncationOf, ExtendedMantissa.ofMantissaAndAccuracy]
  · have hr' : (0 : ℚ) < (n % d : ℕ) := by exact_mod_cast Nat.pos_of_ne_zero hr
    rw [accuracyOfFraction, if_neg hr]
    rcases hcmp : compare (2 * (n % d)) d with _ | _ | _
    · have h2 : 2 * ((n % d : ℕ) : ℚ) < d := by exact_mod_cast Nat.compare_eq_lt.1 hcmp
      have h3 : ((n % d : ℕ) : ℚ) / d < 1 / 2 := by
        rw [div_lt_iff₀ hd']
        linarith
      simpa [TruncationOf, ExtendedMantissa.ofMantissaAndAccuracy] using
        And.intro (div_pos hr' hd') h3
    · have h2 : 2 * ((n % d : ℕ) : ℚ) = d := by exact_mod_cast Nat.compare_eq_eq.1 hcmp
      have h3 : ((n % d : ℕ) : ℚ) / d = 1 / 2 := by
        rw [div_eq_iff hd'.ne']
        linarith
      simpa [TruncationOf, ExtendedMantissa.ofMantissaAndAccuracy] using h3
    · have h2 : (d : ℚ) < 2 * ((n % d : ℕ) : ℚ) := by exact_mod_cast Nat.compare_eq_gt.1 hcmp
      have h3 : 1 / 2 < ((n % d : ℕ) : ℚ) / d := by
        rw [lt_div_iff₀ hd']
        linarith
      have h4 : ((n % d : ℕ) : ℚ) / d < 1 := by
        rw [div_lt_one hd']
        exact hlt
      simpa [TruncationOf, ExtendedMantissa.ofMantissaAndAccuracy] using And.intro h3 h4

/-- A product of sufficiently many digits is rounded to the float that it is nearest to. -/
theorem mul_eq {m₁ m₂ m : ℕ} {e₁ e₂ q : ℤ} {h₁ : 0 < m₁} {h₂ : 0 < m₂}
    (hfine : 2 ^ 52 ≤ m₁ * m₂) (hp : 0 < m) (hc : Canonical m q)
    (hn : Nearest m q (m₁ * 2 ^ e₁ * (m₂ * 2 ^ e₂))) :
    mul Format.binary64 (.finite .positive m₁ e₁ h₁) (.finite .positive m₂ e₂ h₂) =
      .finite .positive m q hp := by
  have hv : (m₁ * 2 ^ e₁ * (m₂ * 2 ^ e₂) : ℚ) / 2 ^ (e₁ + e₂) = (m₁ * m₂ : ℕ) := by
    have h1 := (two_zpow_pos e₁).ne'
    have h2 := (two_zpow_pos e₂).ne'
    rw [two_zpow_add]
    push_cast
    field_simp
  refine roundWithAccuracy_eq .positive ?_ (Or.inl hfine) hp hc hn
  rw [hv]
  exact truncationOf_exact _

/-- A quotient of floats is one of integers, in units of a power of two that is small enough. -/
theorem quotient_div_two_zpow (m₁ m₂ : ℕ) {e₁ e₂ t : ℤ} (hle : t ≤ e₁ - e₂) :
    (m₁ * 2 ^ e₁ / (m₂ * 2 ^ e₂) : ℚ) / 2 ^ t = (m₁ <<< (e₁ - e₂ - t).toNat : ℕ) / m₂ := by
  have hexp : (2 : ℚ) ^ e₁ = 2 ^ t * 2 ^ e₂ * 2 ^ (e₁ - e₂ - t).toNat := by
    rw [← zpow_natCast, ← two_zpow_add, ← two_zpow_add]
    congr 1
    omega
  have h1 := (two_zpow_pos t).ne'
  have h2 := (two_zpow_pos e₂).ne'
  rw [hexp, Nat.shiftLeft_eq]
  push_cast
  field_simp

/-- The integer part of a quotient has enough digits if the dividend was shifted far enough. -/
theorem two_pow_le_shifted_div {m₁ m₂ n : ℕ} (h₁ : 0 < m₁) (h₂ : 0 < m₂)
    (hshift : m₂.log2 + 53 ≤ m₁.log2 + n) : 2 ^ 52 ≤ m₁ <<< n / m₂ := by
  rw [Nat.le_div_iff_mul_le h₂, Nat.shiftLeft_eq]
  calc 2 ^ 52 * m₂ ≤ 2 ^ 52 * 2 ^ (m₂.log2 + 1) := Nat.mul_le_mul_left _ Nat.lt_log2_self.le
    _ = 2 ^ (m₂.log2 + 53) := by ring
    _ ≤ 2 ^ (m₁.log2 + n) := Nat.pow_le_pow_right (by norm_num) hshift
    _ = 2 ^ m₁.log2 * 2 ^ n := by rw [pow_add]
    _ ≤ m₁ * 2 ^ n := Nat.mul_le_mul_right _ (Nat.log2_self_le h₁.ne')

/-- A quotient is rounded to the float that it is nearest to. -/
theorem div_eq {m₁ m₂ m : ℕ} {e₁ e₂ q : ℤ} {h₁ : 0 < m₁} {h₂ : 0 < m₂} (hp : 0 < m)
    (hc : Canonical m q) (hn : Nearest m q (m₁ * 2 ^ e₁ / (m₂ * 2 ^ e₂))) :
    div Format.binary64 (.finite .positive m₁ e₁ h₁) (.finite .positive m₂ e₂ h₂) =
      .finite .positive m q hp := by
  have ht : Format.binary64.targetExponent (totalExponent m₁ e₁ - totalExponent m₂ e₂) =
      max ((m₁.log2 : ℤ) - m₂.log2 + (e₁ - e₂) - 53) (-1074) := by
    change max ((m₁.log2 : ℤ) + 1 + e₁ - (m₂.log2 + 1 + e₂) - 53) (-1074) = _
    congr 1
    ring
  rw [UnpackedFloat.div, divCore, ht]
  generalize hs : min (e₁ - e₂) (max ((m₁.log2 : ℤ) - m₂.log2 + (e₁ - e₂) - 53) (-1074)) = t
  refine roundWithAccuracy_eq .positive ?_ ?_ hp hc hn
  · rw [quotient_div_two_zpow m₁ m₂ (by omega)]
    exact truncationOf_fraction _ h₂
  · by_cases hlow : t ≤ -1074
    · exact .inr hlow
    · exact .inl (two_pow_le_shifted_div h₁ h₂ (by omega))

/-! ## By exact integers -/

theorem nearest_self (m : ℕ) (q : ℤ) : Nearest m q (m * 2 ^ q) := by
  have hq := two_zpow_pos q
  constructor <;> intros <;> (try constructor) <;> nlinarith

theorem Nearest.lt_of_canonical {m : ℕ} {q : ℤ} {v : ℚ} (hn : Nearest m q v) (hc : Canonical m q) :
    v < 2 ^ (1024 : ℤ) := by
  calc v < 2 ^ (53 + q) := hn.lt_two_zpow hc
    _ ≤ 2 ^ (1024 : ℤ) := zpow_le_zpow_right₀ (by norm_num) (by have := hc.most; omega)

theorem Nearest.le_of_canonical {m : ℕ} {q : ℤ} {v : ℚ} (hn : Nearest m q v) (hc : Canonical m q)
    (hp : 0 < m) : 2 ^ (-1075 : ℤ) ≤ v := by
  have hm : (1 : ℚ) ≤ m := by exact_mod_cast hp
  calc (2 : ℚ) ^ (-1075 : ℤ) ≤ 2 ^ (-1 + q) :=
        zpow_le_zpow_right₀ (by norm_num) (by have := hc.least; omega)
    _ = 1 / 2 * 2 ^ q := by rw [two_zpow_add]; norm_num
    _ ≤ ((m : ℚ) - 1 / 2) * 2 ^ q := mul_le_mul_of_nonneg_right (by linarith) (two_zpow_pos q).le
    _ ≤ v := hn.above

theorem ten_zpow_le {k : ℤ} (hk : k ≤ 0) : (10 : ℚ) ^ k ≤ 2 ^ k := by
  obtain ⟨n, rfl⟩ : ∃ n : ℕ, k = -n := ⟨(-k).toNat, by omega⟩
  rw [zpow_neg, zpow_neg, zpow_natCast, zpow_natCast]
  gcongr
  norm_num

/-- A decimal that a float is nearest to is not given up as too great. -/
theorem Nearest.exponent_le {d m : ℕ} {k q : ℤ} (hn : Nearest m q (d * 10 ^ k)) (hd : 0 < d)
    (hc : Canonical m q) : k ≤ 2048 := by
  have hd' : (1 : ℚ) ≤ d := by exact_mod_cast hd
  by_contra hk
  have hlarge : (2 : ℚ) ^ (1024 : ℤ) ≤ d * 10 ^ k := by
    calc (2 : ℚ) ^ (1024 : ℤ) ≤ 2 ^ k := zpow_le_zpow_right₀ (by norm_num) (by omega)
      _ ≤ 10 ^ k := zpow_le_zpow_left₀ (by omega) (by norm_num) (by norm_num)
      _ ≤ d * 10 ^ k := le_mul_of_one_le_left (by positivity) hd'
  exact absurd (hn.lt_of_canonical hc) (not_lt.2 hlarge)

/-- A decimal that a float other than zero is nearest to is not given up as too small. -/
theorem Nearest.le_exponent {d m : ℕ} {k q : ℤ} (hn : Nearest m q (d * 10 ^ k)) (hp : 0 < m)
    (hc : Canonical m q) : -(2048 + (d.log2 : ℤ)) ≤ k := by
  by_contra hk
  have hdl : (d : ℚ) < 2 ^ ((d.log2 : ℤ) + 1) := by
    have : d < 2 ^ (d.log2 + 1) := Nat.lt_log2_self
    exact_mod_cast this
  have hsmall : (d : ℚ) * 10 ^ k < 2 ^ (-1075 : ℤ) := by
    calc (d : ℚ) * 10 ^ k < 2 ^ ((d.log2 : ℤ) + 1) * 10 ^ k :=
          mul_lt_mul_of_pos_right hdl (by positivity)
      _ ≤ 2 ^ ((d.log2 : ℤ) + 1) * 2 ^ k := by
          refine mul_le_mul_of_nonneg_left ?_ (by positivity)
          exact ten_zpow_le (by omega)
      _ = 2 ^ ((d.log2 : ℤ) + 1 + k) := (two_zpow_add _ _).symm
      _ ≤ 2 ^ (-1075 : ℤ) := zpow_le_zpow_right₀ (by norm_num) (by omega)
  exact absurd (hn.le_of_canonical hc hp) (not_le.2 hsmall)

/-- The general way to read a decimal finds the nearest float. -/
theorem ofScientific_eq {d m : ℕ} {k q : ℤ} (hd : 0 < d) (hp : 0 < m) (hc : Canonical m q)
    (hn : Nearest m q (d * 10 ^ k)) :
    UnpackedFloat.ofScientific Format.binary64 d k = .finite .positive m q hp := by
  have hlarge : k ≤ 2048 := hn.exponent_le hd hc
  have hsmall : -(2048 + (d.log2 : ℤ)) ≤ k := hn.le_exponent hp hc
  rw [UnpackedFloat.ofScientific, dif_neg hd.ne', if_neg (by change ¬ k > 2 ^ 11; omega),
    if_neg (by change ¬ k < -(2 ^ 11 + (d.log2 : ℤ)); omega)]
  split_ifs with hk
  · refine mul_eq ?_ hp hc ?_
    · change 2 ^ 52 ≤ d <<< 53 * 10 ^ k.toNat
      rw [Nat.shiftLeft_eq]
      have : 0 < 10 ^ k.toNat := by positivity
      nlinarith
    · obtain ⟨n, rfl⟩ := Int.eq_ofNat_of_zero_le hk
      convert hn using 1
      change ((d <<< 53 : ℕ) : ℚ) * 2 ^ (-53 : ℤ) * (_ * 2 ^ (0 : ℤ)) = _
      rw [Nat.shiftLeft_eq]
      push_cast
      norm_num [mul_assoc]
  · obtain ⟨n, rfl⟩ : ∃ n : ℕ, k = -n := ⟨(-k).toNat, by omega⟩
    refine div_eq hp hc ?_
    convert hn using 1
    simp [zpow_neg, div_eq_mul_inv]

/-! ## By floats -/

theorem ofModel_pack_eq {u : UnpackedFloat} {m : ℕ} {q : ℤ} {hp : 0 < m} (hc : Canonical m q)
    (h : u = .finite .positive m q hp) :
    Parts.ofFloat (.ofModel (Float.Model.pack u)) = .finite false m q := by
  rw [h]
  exact Parts.ofFloat_pack false hp hc

section

variable {d : ℕ} (hd : 0 < d) (hl : d.log2 ≤ 52)

include hd hl in
theorem two_pow_le_scaled : 2 ^ 52 ≤ d * 2 ^ (52 - d.log2) := by
  calc 2 ^ 52 = 2 ^ d.log2 * 2 ^ (52 - d.log2) := by
        rw [← pow_add]
        congr 1
        omega
    _ ≤ d * 2 ^ (52 - d.log2) := Nat.mul_le_mul_right _ (Nat.log2_self_le hd.ne')

include hl in
theorem scaled_lt_two_pow : d * 2 ^ (52 - d.log2) < 2 ^ 53 := by
  calc d * 2 ^ (52 - d.log2) < 2 ^ (d.log2 + 1) * 2 ^ (52 - d.log2) :=
        Nat.mul_lt_mul_of_pos_right Nat.lt_log2_self (by positivity)
    _ = 2 ^ 53 := by
        rw [← pow_add]
        congr 1
        omega

include hd hl in
/-- A natural that fits is shifted until its first digit has the place it has in a float. -/
theorem canonical_scaled : Canonical (d * 2 ^ (52 - d.log2)) ((d.log2 : ℤ) - 52) :=
  ⟨scaled_lt_two_pow hl, by omega, by omega, Or.inl (two_pow_le_scaled hd hl)⟩

include hl in
theorem cast_scaled : ((d * 2 ^ (52 - d.log2) : ℕ) : ℚ) * 2 ^ ((d.log2 : ℤ) - 52) = d := by
  have he : (d.log2 : ℤ) - 52 = -((52 - d.log2 : ℕ) : ℤ) := by omega
  rw [he, zpow_neg, zpow_natCast]
  push_cast
  field_simp

include hd hl in
theorem round_nat (hp : 0 < d * 2 ^ (52 - d.log2)) :
    UnpackedFloat.round Format.binary64 .positive d 0 =
      .finite .positive (d * 2 ^ (52 - d.log2)) ((d.log2 : ℤ) - 52) hp := by
  have ht : Format.binary64.targetExponent (totalExponent d 0) = (d.log2 : ℤ) - 52 := by
    rw [targetExponent_eq, shiftedTo]
    omega
  have hs : ((0 : ℤ) - ((d.log2 : ℤ) - 52)).toNat = 52 - d.log2 := by omega
  have he : (0 : ℤ) - ((52 - d.log2 : ℕ) : ℤ) = (d.log2 : ℤ) - 52 := by omega
  rw [UnpackedFloat.round, ht, decreaseExponent, hs]
  dsimp only
  rw [he, Nat.shiftLeft_eq]
  refine roundWithAccuracy_eq _ ?_ (Or.inl (two_pow_le_scaled hd hl)) hp (canonical_scaled hd hl)
    (nearest_self _ _)
  rw [mul_div_assoc, div_self (two_zpow_pos _).ne', mul_one]
  exact truncationOf_exact _

include hd hl in
theorem ofUInt64_eq (hlt : d < 2 ^ 53) (hp : 0 < d * 2 ^ (52 - d.log2)) :
    UnpackedFloat.ofUInt64 Format.binary64 d.toUInt64 =
      .finite .positive (d * 2 ^ (52 - d.log2)) ((d.log2 : ℤ) - 52) hp := by
  have hu : d.toUInt64.toNat = d := by
    rw [Nat.toUInt64, UInt64.toNat_ofNat']
    omega
  have hpos : compare (d : ℤ) 0 = .gt := by
    rw [Int.compare_eq_gt]
    exact_mod_cast hd
  rw [UnpackedFloat.ofUInt64, hu, UnpackedFloat.ofNat, UnpackedFloat.ofInt,
    UnpackedFloat.normalize, hpos]
  exact round_nat hd hl hp

end

/-- Naturals below `2 ^ 53` are floats. -/
theorem exists_unpack_toFloat {d : ℕ} (hd : 0 < d) (hlt : d < 2 ^ 53) :
    ∃ (m : ℕ) (q : ℤ) (hp : 0 < m), 2 ^ 52 ≤ m ∧ (m : ℚ) * 2 ^ q = d ∧
      d.toUInt64.toFloat.toModel.unpack = .finite .positive m q hp := by
  have hl : d.log2 ≤ 52 := by
    have := (Nat.log2_lt hd.ne').2 hlt
    omega
  have hp : 0 < d * 2 ^ (52 - d.log2) := by positivity
  have hparts : Parts.ofFloat d.toUInt64.toFloat =
      .finite false (d * 2 ^ (52 - d.log2)) ((d.log2 : ℤ) - 52) :=
    ofModel_pack_eq (canonical_scaled hd hl) (ofUInt64_eq hd hl hlt hp)
  refine ⟨_, _, hp, two_pow_le_scaled hd hl, cast_scaled hl, ?_⟩
  rw [Parts.unpack_toModel, hparts, Parts.unpacked, dif_neg hp.ne']
  rfl

/-- Whether parts say the power `10 ^ n`, in units of `2 ^ -52`. -/
def isTenPower (n : ℕ) : Parts → Bool
  | .finite false m q => 0 < m && -52 ≤ q && m * 2 ^ (q + 52).toNat == 10 ^ n * 2 ^ 52
  | _ => false

theorem isTenPower_table :
    ∀ i : Fin 23, isTenPower i (Parts.ofFloat Float.exactlyRepresentablePowersOfTen[i]) = true := by
  decide +kernel

/-- The powers of ten that are kept ready are the powers of ten. -/
theorem exists_unpack_power {n : ℕ} (hn : n < Float.exactlyRepresentablePowersOfTen.size) :
    ∃ (m : ℕ) (q : ℤ) (hp : 0 < m), (m : ℚ) * 2 ^ q = 10 ^ n ∧
      Float.exactlyRepresentablePowersOfTen[n].toModel.unpack = .finite .positive m q hp := by
  have h := isTenPower_table ⟨n, hn⟩
  rw [Parts.unpack_toModel]
  change isTenPower n (Parts.ofFloat Float.exactlyRepresentablePowersOfTen[n]) = true at h
  generalize Parts.ofFloat Float.exactlyRepresentablePowersOfTen[n] = p at h
  rcases p with ⟨_ | _, m, q⟩ | _ | _ <;> simp only [isTenPower, Bool.false_eq_true] at h
  simp only [Bool.and_eq_true, decide_eq_true_eq, beq_iff_eq] at h
  obtain ⟨⟨hp, hq⟩, hval⟩ := h
  refine ⟨m, q, hp, ?_, by rw [Parts.unpacked, dif_neg hp.ne']; rfl⟩
  obtain ⟨j, rfl⟩ : ∃ j : ℕ, q = j - 52 := ⟨(q + 52).toNat, by omega⟩
  rw [sub_add_cancel, Int.toNat_natCast] at hval
  rw [zpow_sub₀ (by norm_num), zpow_natCast, ← mul_div_assoc, div_eq_iff (by positivity)]
  exact_mod_cast hval

/-! ## The float that is read -/

/-- **A decimal is read as the float that is nearest to it.** -/
theorem ofFloat_ofScientific {d n m : ℕ} {s : Bool} {q : ℤ} (hd : 0 < d) (hp : 0 < m)
    (hc : Canonical m q) (hn : Nearest m q (d * 10 ^ (if s then -n else n : ℤ))) :
    Parts.ofFloat (Float.ofScientific d s n) = .finite false m q := by
  by_cases hfast : d < 2 ^ 53 ∧ n ≤ 22
  · have hsize : n < Float.exactlyRepresentablePowersOfTen.size := Nat.lt_succ_of_le hfast.2
    obtain ⟨m₁, q₁, hp₁, hm₁, hv₁, h₁⟩ := exists_unpack_toFloat hd hfast.1
    obtain ⟨m₂, q₂, hp₂, hv₂, h₂⟩ := exists_unpack_power hsize
    rw [Float.ofScientific, dif_pos hfast]
    cases s
    · rw [if_neg Bool.false_ne_true, zpow_natCast, ← hv₁, ← hv₂] at hn
      refine @ofModel_pack_eq _ _ _ hp hc ?_
      rw [h₁, h₂]
      exact mul_eq (le_trans hm₁ (Nat.le_mul_of_pos_right _ hp₂)) hp hc hn
    · rw [if_pos rfl, zpow_neg, ← div_eq_mul_inv, zpow_natCast, ← hv₁, ← hv₂] at hn
      refine @ofModel_pack_eq _ _ _ hp hc ?_
      rw [h₁, h₂]
      exact div_eq hp hc hn
  · rw [Float.ofScientific, dif_neg hfast]
    cases s
    · exact ofModel_pack_eq hc (ofScientific_eq hd hp hc hn)
    · rw [if_pos rfl, ← Int.ofNat_eq_natCast, ← Int.negOfNat_eq] at hn
      exact ofModel_pack_eq hc (ofScientific_eq hd hp hc hn)

end Winnow.Rounding
