import Mathlib
import Winnow.Number.Basic

/-!
# The bits of a float

The model of numbers reads a float by its parts: a sign, a significand and a power of two. The
arithmetic of floats works on parts of its own and packs them into bits again. This file ties the
two together.

* `Parts.unpacked` — parts as the arithmetic of floats takes them; `unpack_toModel` says that it
  finds the same parts in a float.
* `Parts.Canonical` — the significands and exponents that finite floats have.
* `Parts.ofFloat_pack` — what is packed from canonical parts has those parts.
* `Parts.ofFloat_inj` — a float is told by its parts.
-/

namespace Winnow.Parts

open Float.Model Float.Model.UnpackedFloat

/-! ## Parts in the arithmetic of floats -/

/-- A sign as the arithmetic of floats takes it. -/
def signOf (negative : Bool) : Sign := if negative then .negative else .positive

/-- Parts as the arithmetic of floats takes them. -/
def unpacked : Parts → UnpackedFloat
  | .finite negative m q =>
      if h : m = 0 then .zero (signOf negative)
      else .finite (signOf negative) m q (Nat.pos_of_ne_zero h)
  | .infinite negative => .infinity (signOf negative)
  | .nan => .notANumber

/-- The parts that the three fields of a float say. -/
def ofFields (negative : Bool) (exponent fraction : Nat) : Parts :=
  if exponent = 0x7FF then
    if fraction = 0 then .infinite negative else .nan
  else if exponent = 0 then .finite negative fraction (-1074)
  else .finite negative (2 ^ 52 + fraction) ((exponent : Int) - 1075)

/-- The significands and exponents of finite floats: at most 53 bits of significand, and all of them
in use unless the exponent is the least. -/
structure Canonical (m : Nat) (q : Int) : Prop where
  lt : m < 2 ^ 53
  least : -1074 ≤ q
  most : q ≤ 971
  full : 2 ^ 52 ≤ m ∨ q = -1074

theorem ofFloat_eq_ofFields (x : Float) :
    ofFloat x = ofFields (x.toBits.toNat / 2 ^ 63 == 1) (x.toBits.toNat / 2 ^ 52 % 2 ^ 11)
      (x.toBits.toNat % 2 ^ 52) := rfl

theorem toNat_unpackExponent (b : BitVec 64) :
    (@unpackExponent Format.binary64 b).toNat = b.toNat / 2 ^ 52 % 2 ^ 11 := by
  simp [unpackExponent, Nat.shiftRight_eq_div_pow]

theorem toNat_unpackMantissa (b : BitVec 64) :
    (@unpackMantissa Format.binary64 b).toNat = b.toNat % 2 ^ 52 := by
  simp [unpackMantissa]

theorem ofBitVec_unpackSign (b : BitVec 64) :
    Sign.ofBitVec (@unpackSign Format.binary64 b) = signOf (b.toNat / 2 ^ 63 == 1) := by
  have hb := b.isLt
  have h : (@unpackSign Format.binary64 b).toNat = b.toNat / 2 ^ 63 := by
    simp [unpackSign, Nat.shiftRight_eq_div_pow]
    omega
  rcases (by omega : b.toNat / 2 ^ 63 = 0 ∨ b.toNat / 2 ^ 63 = 1) with h0 | h1
  · have hz : @unpackSign Format.binary64 b = 0#1 := by
      apply BitVec.eq_of_toNat_eq
      rw [h, h0]
      rfl
    rw [h0, hz]
    rfl
  · have hz : @unpackSign Format.binary64 b = 1#1 := by
      apply BitVec.eq_of_toNat_eq
      rw [h, h1]
      rfl
    rw [h1, hz]
    rfl

theorem toNat_append_one (m : BitVec 52) : (1#1 ++ m).toNat = 2 ^ 52 + m.toNat := by
  rw [BitVec.toNat_append, ← Nat.shiftLeft_add_eq_or_of_lt m.isLt]
  rfl

/-- What the arithmetic of floats finds in bits are the parts that the fields say. -/
theorem unpack_eq_ofFields (b : BitVec 64) :
    UnpackedFloat.unpack Format.binary64 b =
      (ofFields (b.toNat / 2 ^ 63 == 1) (b.toNat / 2 ^ 52 % 2 ^ 11)
        (b.toNat % 2 ^ 52)).unpacked := by
  rw [← toNat_unpackExponent, ← toNat_unpackMantissa]
  simp only [UnpackedFloat.unpack, ofBitVec_unpackSign]
  generalize (b.toNat / 2 ^ 63 == 1) = negative
  generalize @unpackExponent Format.binary64 b = e
  have hall : e = (-1#_) ↔ e.toNat = 0x7FF := by
    rw [← BitVec.toNat_inj]
    rfl
  have hnone : e = 0#_ ↔ e.toNat = 0 := by
    rw [← BitVec.toNat_inj]
    rfl
  have hzero : @unpackMantissa Format.binary64 b = 0#_ ↔
      (@unpackMantissa Format.binary64 b).toNat = 0 := by
    rw [← BitVec.toNat_inj]
    rfl
  simp only [hall, hnone, hzero, ofFields]
  by_cases h1 : e.toNat = 0x7FF
  · rw [if_pos h1, if_pos h1]
    by_cases h2 : (@unpackMantissa Format.binary64 b).toNat = 0
    · rw [if_pos h2, if_pos h2]
      rfl
    · rw [if_neg h2, if_neg h2]
      rfl
  · rw [if_neg h1, if_neg h1]
    by_cases h2 : e.toNat = 0
    · rw [if_pos h2, if_pos h2, unpacked]
      by_cases h3 : (@unpackMantissa Format.binary64 b).toNat = 0
      · rw [dif_pos h3, dif_pos h3]
      · rw [dif_neg h3, dif_neg h3, UnpackedFloat.finite.injEq]
        refine ⟨rfl, rfl, ?_⟩
        rw [h2]
        rfl
    · rw [if_neg h2, if_neg h2, unpacked, dif_neg (by omega), UnpackedFloat.finite.injEq]
      exact ⟨rfl, toNat_append_one _, rfl⟩

/-- The arithmetic of floats finds in a float the parts that it has. -/
theorem unpack_toModel (x : Float) : x.toModel.unpack = (ofFloat x).unpacked :=
  unpack_eq_ofFields x.toModel.toBits.toBitVec

/-! ## Packing -/

theorem toNat_packComponents (negative : Bool) (e : BitVec 11) (m : BitVec 52) :
    (packComponents Format.binary64 (signOf negative) e m).toNat =
      negative.toNat * 2 ^ 63 + e.toNat * 2 ^ 52 + m.toNat := by
  have hs : (signOf negative).toBitVec.toNat = negative.toNat := by cases negative <;> rfl
  rw [packComponents, BitVec.toNat_append, BitVec.toNat_append,
    ← Nat.shiftLeft_add_eq_or_of_lt m.isLt, ← Nat.shiftLeft_add_eq_or_of_lt e.isLt, hs,
    Nat.shiftLeft_eq, Nat.shiftLeft_eq]
  ring

theorem ofFloat_of_toBits {x : Float} {negative : Bool} {e f : Nat} (he : e < 2 ^ 11)
    (hf : f < 2 ^ 52) (h : x.toBits.toNat = negative.toNat * 2 ^ 63 + e * 2 ^ 52 + f) :
    ofFloat x = ofFields negative e f := by
  have h1 : (x.toBits.toNat / 2 ^ 63 == 1) = negative := by
    cases negative
    · have : x.toBits.toNat / 2 ^ 63 = 0 := by rw [h, Bool.toNat_false]; omega
      rw [this]
      rfl
    · have : x.toBits.toNat / 2 ^ 63 = 1 := by rw [h, Bool.toNat_true]; omega
      rw [this]
      rfl
  have h2 : x.toBits.toNat / 2 ^ 52 % 2 ^ 11 = e := by
    rw [h]
    omega
  have h3 : x.toBits.toNat % 2 ^ 52 = f := by
    rw [h]
    omega
  rw [← h1, ← h2, ← h3]
  exact ofFloat_eq_ofFields x

/-- What is packed from canonical parts has those parts. -/
theorem ofFloat_pack (negative : Bool) {m : Nat} {q : Int} (hp : 0 < m) (h : Canonical m q) :
    ofFloat (.ofModel (Float.Model.pack (.finite (signOf negative) m q hp))) =
      .finite negative m q := by
  obtain ⟨hlt, hleast, hmost, hfull⟩ := h
  have hbits : (Float.ofModel (Float.Model.pack (.finite (signOf negative) m q hp))).toBits.toNat =
      (UnpackedFloat.pack Format.binary64 (.finite (signOf negative) m q hp)).toNat := rfl
  have hbias : (q + (Format.binary64.exponentBias : Int) +
      (Format.binary64.mantissaBitsWithoutImplicit : Int)).toNat = (q + 1075).toNat := by
    congr 1
    change q + 1023 + 52 = _
    ring
  rw [UnpackedFloat.pack, hbias, if_neg (by change ¬ 2 ^ 11 ≤ _; omega)] at hbits
  -- a significand in full use leaves its first bit out, any other has the field of exponent zero
  by_cases hm : 2 ^ 52 ≤ m
  · have hlog : m.log2 + 1 = Format.binary64.mantissaBits := by
      rw [(Nat.log2_eq_iff hp.ne').2 ⟨hm, hlt⟩]
      rfl
    rw [if_pos hlog, toNat_packComponents, BitVec.toNat_ofNat, BitVec.toNat_ofNat] at hbits
    rw [ofFloat_of_toBits (Nat.mod_lt _ (by decide)) (Nat.mod_lt _ (by decide)) hbits, ofFields,
      if_neg (by omega), if_neg (by omega)]
    congr 1 <;> omega
  · have hlog : m.log2 + 1 ≠ Format.binary64.mantissaBits := by
      have := (Nat.log2_lt hp.ne').2 (Nat.lt_of_not_le hm)
      change m.log2 + 1 ≠ 53
      omega
    rw [if_neg hlog, toNat_packComponents, BitVec.toNat_ofNat, BitVec.toNat_ofNat] at hbits
    rw [ofFloat_of_toBits (Nat.mod_lt _ (by decide)) (Nat.mod_lt _ (by decide)) hbits, ofFields,
      if_neg (by decide), if_pos (by decide)]
    congr 1 <;> omega

theorem canonical_of_ofFields {a negative : Bool} {e f m : Nat} {q : Int} (he : e < 2 ^ 11)
    (hf : f < 2 ^ 52) (h : ofFields a e f = .finite negative m q) : Canonical m q := by
  unfold ofFields at h
  split_ifs at h with h1 h2 h3
  · obtain ⟨-, rfl, rfl⟩ := Parts.finite.inj h
    exact ⟨by omega, by omega, by omega, Or.inr rfl⟩
  · obtain ⟨-, rfl, rfl⟩ := Parts.finite.inj h
    exact ⟨by omega, by omega, by omega, Or.inl (by omega)⟩

/-- The parts of a finite float are canonical. -/
theorem canonical_of_ofFloat {x : Float} {negative : Bool} {m : Nat} {q : Int}
    (h : ofFloat x = .finite negative m q) : Canonical m q :=
  canonical_of_ofFields (Nat.mod_lt _ (by decide)) (Nat.mod_lt _ (by decide)) h

/-! ## A float is told by its parts -/

theorem ofFields_inj {a a' : Bool} {e e' f f' : Nat} (hf : f < 2 ^ 52) (hf' : f' < 2 ^ 52)
    (hne : ofFields a e f ≠ .nan) (h : ofFields a e f = ofFields a' e' f') :
    a = a' ∧ e = e' ∧ f = f' := by
  unfold ofFields at h hne
  split_ifs at h hne
  all_goals simp_all
  all_goals omega

theorem eq_of_toBits {x y : Float} (h : x.toBits.toNat = y.toBits.toNat) : x = y := by
  obtain ⟨⟨b, hb⟩⟩ := x
  obtain ⟨⟨c, hc⟩⟩ := y
  obtain rfl : b = c := UInt64.toNat_inj.1 h
  rfl

/-- Only one pattern of bits says that there is no number. -/
theorem toBits_of_ofFloat_nan {x : Float} (h : ofFloat x = .nan) :
    x.toBits.toNat = (packedNaN Format.binary64).toNat := by
  rw [ofFloat_eq_ofFields, ofFields] at h
  split_ifs at h with h1 h2
  have he : @unpackExponent Format.binary64 x.toModel.toBits.toBitVec = (-1#_) := by
    apply BitVec.eq_of_toNat_eq
    rw [toNat_unpackExponent]
    exact h1
  have hm : @unpackMantissa Format.binary64 x.toModel.toBits.toBitVec ≠ 0#_ := by
    intro hz
    apply h2
    have hn := congrArg BitVec.toNat hz
    rw [toNat_unpackMantissa] at hn
    exact hn
  exact congrArg BitVec.toNat (x.toModel.valid.eq_packedNaN he hm)

/-- **A float is told by its parts.** -/
theorem ofFloat_inj {x y : Float} (h : ofFloat x = ofFloat y) : x = y := by
  apply eq_of_toBits
  by_cases hx : ofFloat x = .nan
  · rw [toBits_of_ofFloat_nan hx, toBits_of_ofFloat_nan (h ▸ hx)]
  · have hbx : x.toBits.toNat < 2 ^ 64 := x.toBits.toNat_lt
    have hby : y.toBits.toNat < 2 ^ 64 := y.toBits.toNat_lt
    rw [ofFloat_eq_ofFields] at hx
    rw [ofFloat_eq_ofFields, ofFloat_eq_ofFields y] at h
    obtain ⟨hs, he, hf⟩ :=
      ofFields_inj (Nat.mod_lt _ (by decide)) (Nat.mod_lt _ (by decide)) hx h
    have hs' : x.toBits.toNat / 2 ^ 63 = 1 ↔ y.toBits.toNat / 2 ^ 63 = 1 := by
      simpa using congrArg (· = true) hs
    omega

/-! ## Signs and words -/

/-- The negative of a finite float differs from it in the sign alone. -/
theorem ofFloat_neg {x : Float} {negative : Bool} {m : Nat} {q : Int}
    (h : ofFloat x = .finite negative m q) : ofFloat (-x) = .finite (!negative) m q := by
  have hc := canonical_of_ofFloat h
  have hneg : -x = .ofModel (Float.Model.pack (unpacked (.finite negative m q)).neg) := by
    rw [← h, ← unpack_toModel]
    rfl
  have hsign : -signOf negative = signOf (!negative) := by cases negative <;> rfl
  rw [hneg, unpacked]
  by_cases hm : m = 0
  · have hq : q = -1074 := by
      have := hc.full
      omega
    subst hm hq
    cases negative <;> decide
  · rw [dif_neg hm]
    have hpack := ofFloat_pack (!negative) (Nat.pos_of_ne_zero hm) hc
    rw [← hsign] at hpack
    exact hpack

theorem ofFloat_zero : ofFloat 0.0 = .finite false 0 (-1074) := by decide

theorem ofFloat_nan : ofFloat (0.0 / 0.0) = .nan := by decide

theorem ofFloat_infinity : ofFloat (1.0 / 0.0) = .infinite false := by decide

theorem ofFloat_neg_infinity : ofFloat (-1.0 / 0.0) = .infinite true := by decide

end Winnow.Parts
