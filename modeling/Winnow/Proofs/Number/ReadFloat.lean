import Winnow.Proofs.Number.Decimal
import Winnow.Proofs.Number.Digits

/-!
# Reading floats from runs of digits

Values far outside the range of floats are told from the number of digits alone. No float has such a
value, so the digits of a float are read as the float that is nearest to them.
-/

namespace Winnow

open Parts (Canonical)
open Rounding (Nearest)

variable {digits : List CodePoint} {k q : ℤ} {m : ℕ}

/-- Zeros at the head of a run of digits are left out before the digits are counted. -/
theorem dropWhile_zero_bounds (h : IsDigits digits) (hpos : 0 < digitsValue digits) :
    digits.dropWhile (· = .char '0') ≠ [] ∧
      (10 : ℚ) ^ ((digits.dropWhile (· = .char '0')).length - 1 : ℤ) ≤ digitsValue digits ∧
      (digitsValue digits : ℚ) < 10 ^ ((digits.dropWhile (· = .char '0')).length : ℤ) := by
  have hvalue := digitsValue_dropWhile_zero digits
  have hsub : IsDigits (digits.dropWhile (· = .char '0')) := h.sublist (List.dropWhile_sublist _)
  have hhead := List.head?_dropWhile_not (· = .char '0') digits
  rw [← hvalue] at hpos ⊢
  cases hd : digits.dropWhile (· = .char '0') with
  | nil =>
      rw [hd, digitsValue_nil] at hpos
      exact absurd hpos (lt_irrefl 0)
  | cons c cs =>
      rw [hd] at hsub hhead
      have hc : c ≠ '0' := by simpa using hhead
      have hlow : 10 ^ cs.length ≤ digitsValue (c :: cs) :=
        pow_le_digitsValue (hsub c List.mem_cons_self) hc
      have hhigh := digitsValue_lt hsub
      refine ⟨List.cons_ne_nil _ _, ?_, ?_⟩
      · rw [List.length_cons, Nat.cast_add_one, add_sub_cancel_right, zpow_natCast]
        exact_mod_cast hlow
      · rw [zpow_natCast]
        exact_mod_cast hhigh

theorem two_zpow_le_ten_zpow {a b : ℕ} (h : 2 ^ a ≤ 10 ^ b) (n : ℕ) :
    (2 : ℚ) ^ (a * n : ℤ) ≤ 10 ^ (b * n : ℤ) := by
  have := Nat.pow_le_pow_left h n
  rw [← pow_mul, ← pow_mul] at this
  exact_mod_cast this

/-- The number of digits of a value that is nearest to a float. -/
theorem digits_range (h : IsDigits digits) (hpos : 0 < digitsValue digits) (hp : 0 < m)
    (hc : Canonical m q) (hn : Nearest m q (digitsValue digits * 10 ^ k)) :
    ¬310 < (digits.dropWhile (· = .char '0')).length + k ∧
      ¬(digits.dropWhile (· = .char '0')).length + k < -330 := by
  obtain ⟨-, hlow, hhigh⟩ := dropWhile_zero_bounds h hpos
  have hk : (0 : ℚ) < 10 ^ k := zpow_pos (by norm_num) k
  constructor
  · intro hlarge
    have h1 : (2 : ℚ) ^ (1024 : ℤ) ≤ digitsValue digits * 10 ^ k := by
      calc (2 : ℚ) ^ (1024 : ℤ) ≤ 2 ^ ((205 : ℕ) * (5 : ℕ) : ℤ) :=
            zpow_le_zpow_right₀ (by norm_num) (by norm_num)
        _ ≤ 10 ^ ((62 : ℕ) * (5 : ℕ) : ℤ) := two_zpow_le_ten_zpow (by norm_num) 5
        _ ≤ 10 ^ ((digits.dropWhile (· = .char '0')).length - 1 + k : ℤ) :=
            zpow_le_zpow_right₀ (by norm_num) (by omega)
        _ = 10 ^ ((digits.dropWhile (· = .char '0')).length - 1 : ℤ) * 10 ^ k :=
            zpow_add₀ (by norm_num) _ _
        _ ≤ digitsValue digits * 10 ^ k := mul_le_mul_of_nonneg_right hlow hk.le
    exact absurd (hn.lt_of_canonical hc) (not_lt.2 h1)
  · intro hsmall
    have h1 : (digitsValue digits : ℚ) * 10 ^ k < 2 ^ (-1075 : ℤ) := by
      calc (digitsValue digits : ℚ) * 10 ^ k
          < 10 ^ ((digits.dropWhile (· = .char '0')).length : ℤ) * 10 ^ k :=
            mul_lt_mul_of_pos_right hhigh hk
        _ = 10 ^ ((digits.dropWhile (· = .char '0')).length + k : ℤ) :=
            (zpow_add₀ (by norm_num) _ _).symm
        _ ≤ 10 ^ (-((66 : ℕ) * (5 : ℕ) : ℤ)) :=
            zpow_le_zpow_right₀ (by norm_num) (by push_cast; omega)
        _ ≤ 2 ^ (-((215 : ℕ) * (5 : ℕ) : ℤ)) := by
            rw [zpow_neg, zpow_neg]
            exact inv_anti₀ (by positivity) (two_zpow_le_ten_zpow (by norm_num) 5)
        _ = 2 ^ (-1075 : ℤ) := by norm_cast
    exact absurd (hn.le_of_canonical hc hp) (not_le.2 h1)

/-- A sign is read by taking the negative. -/
theorem ofFloat_signed {x : Float} (negative : Bool) (h : Parts.ofFloat x = .finite false m q) :
    Parts.ofFloat (if negative then -x else x) = .finite negative m q := by
  cases negative
  · exact h
  · exact Parts.ofFloat_neg h

/-- **Runs of digits are read as the float that is nearest to their value.** -/
theorem ofFloat_readFloat {negative : Bool} {whole fraction : List CodePoint} {exponent : ℤ}
    (h : IsDigits (whole ++ fraction)) (hpos : 0 < digitsValue (whole ++ fraction)) (hp : 0 < m)
    (hc : Canonical m q)
    (hn : Nearest m q (digitsValue (whole ++ fraction) * 10 ^ (exponent - fraction.length))) :
    Parts.ofFloat (readFloat negative whole fraction exponent) = .finite negative m q := by
  obtain ⟨hne, -, -⟩ := dropWhile_zero_bounds h hpos
  obtain ⟨hlarge, hsmall⟩ := digits_range h hpos hp hc hn
  rw [readFloat]
  refine ofFloat_signed negative ?_
  rw [if_neg (mt List.isEmpty_iff.1 hne), if_neg hlarge, if_neg hsmall, digitsValue_dropWhile_zero]
  refine Rounding.ofFloat_ofScientific hpos hp hc ?_
  convert hn using 3
  split_ifs with hs
  · have := of_decide_eq_true hs
    omega
  · have : ¬exponent - (fraction.length : ℤ) < 0 := fun h0 => hs (decide_eq_true h0)
    omega

theorem ofFloat_readFloat_zero {negative : Bool} {whole fraction : List CodePoint} {exponent : ℤ}
    (h : ∀ c ∈ whole ++ fraction, c = '0') :
    Parts.ofFloat (readFloat negative whole fraction exponent) = .finite negative 0 (-1074) := by
  have hnil : (whole ++ fraction).dropWhile (· = .char '0') = [] :=
    List.dropWhile_eq_nil_iff.2 fun c hc => by simpa using h c hc
  rw [readFloat]
  refine ofFloat_signed negative ?_
  rw [if_pos (List.isEmpty_iff.2 hnil)]
  exact Parts.ofFloat_zero

end Winnow
