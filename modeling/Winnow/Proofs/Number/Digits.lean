import Mathlib
import Winnow.Number.Text
import Winnow.Proofs.Text.CodePoints

/-!
# Decimal digits

How runs of decimal digits stand for naturals, with zeros before and after them.

* `IsDigits` — a run of digits.
* `digitsValue_append`, `digitsValue_decimal` — the natural that a run writes.
* `digitsValue_lt`, `pow_le_digitsValue` — its size, told from the number of digits.
* `Text.digitsValue_padded`, `Text.length_padded` — numbers with zeros before them.
-/

namespace Winnow

/-! ## Runs of digits -/

/-- A run of characters of one kind ends where the text goes on with another. -/
theorem takeWhile_append_of_all {p : CodePoint → Bool} {a b : List CodePoint}
    (ha : ∀ c ∈ a, p c = true) (hb : ∀ c ∈ b.head?, p c = false) :
    (a ++ b).takeWhile p = a ∧ (a ++ b).dropWhile p = b := by
  rw [List.takeWhile_append_of_pos ha, List.dropWhile_append_of_pos ha]
  cases b with
  | nil => simp
  | cons c cs => simp [hb c rfl]

/-- A run of decimal digits. -/
def IsDigits (digits : List CodePoint) : Prop := ∀ c ∈ digits, c.isDigit = true

namespace IsDigits

variable {a b : List CodePoint}

theorem append (ha : IsDigits a) (hb : IsDigits b) : IsDigits (a ++ b) := by
  intro c hc
  rcases List.mem_append.1 hc with h | h
  · exact ha c h
  · exact hb c h

theorem zeros (n : ℕ) : IsDigits (Text.zeros n) := by
  intro c hc
  rw [List.eq_of_mem_replicate hc]
  rfl

theorem decimal (n : ℕ) : IsDigits (Text.decimal n) := by
  intro c hc
  obtain ⟨d, hd, rfl⟩ := List.mem_map.1 hc
  exact Nat.isDigit_of_mem_toDigits (by norm_num) (by norm_num) hd

theorem sublist (hb : IsDigits b) (h : a.Sublist b) : IsDigits a := fun c hc => hb c (h.subset hc)

theorem takeWhile_append (ha : IsDigits a) (hb : ∀ c ∈ b.head?, c.isDigit = false) :
    (a ++ b).takeWhile CodePoint.isDigit = a :=
  (takeWhile_append_of_all ha hb).1

theorem dropWhile_append (ha : IsDigits a) (hb : ∀ c ∈ b.head?, c.isDigit = false) :
    (a ++ b).dropWhile CodePoint.isDigit = b :=
  (takeWhile_append_of_all ha hb).2

end IsDigits

/-! ## Values -/

@[simp] theorem digitsValue_nil : digitsValue [] = 0 := rfl

/-- A run goes on from the value of what stands before it. -/
theorem foldl_digits (n : ℕ) (digits : List CodePoint) :
    digits.foldl (fun value c => 10 * value + (c.toNat - 48)) n =
      n * 10 ^ digits.length + digitsValue digits := by
  induction digits generalizing n with
  | nil => simp
  | cons c cs ih =>
      rw [digitsValue, List.foldl_cons, List.foldl_cons, ih, ih (10 * 0 + _), List.length_cons]
      ring

theorem digitsValue_append (a b : List CodePoint) :
    digitsValue (a ++ b) = digitsValue a * 10 ^ b.length + digitsValue b := by
  rw [digitsValue, List.foldl_append, foldl_digits]
  rfl

theorem digitsValue_cons (c : CodePoint) (cs : List CodePoint) :
    digitsValue (c :: cs) = (c.toNat - 48) * 10 ^ cs.length + digitsValue cs := by
  rw [digitsValue, List.foldl_cons, foldl_digits, mul_zero, zero_add]

@[simp] theorem digitsValue_zeros (n : ℕ) : digitsValue (Text.zeros n) = 0 := by
  induction n with
  | zero => rfl
  | succ n ih =>
      rw [Text.zeros, List.replicate_succ, digitsValue_cons, ← Text.zeros, ih]
      exact Nat.zero_mul _

@[simp] theorem Text.length_zeros (n : ℕ) : (Text.zeros n).length = n := List.length_replicate

/-- Runs of characters have the value that characters have. -/
theorem digitsValue_map_char (digits : List Char) :
    digitsValue (digits.map .char) = Nat.ofDigitChars 10 digits 0 := by
  rw [digitsValue, List.foldl_map]
  rfl

@[simp] theorem digitsValue_decimal (n : ℕ) : digitsValue (Text.decimal n) = n := by
  rw [Text.decimal, digitsValue_map_char, Nat.ofDigitChars_ten_toDigits]

theorem digit_pos {c : CodePoint} (hc : c.isDigit = true) (h0 : c ≠ '0') : 0 < c.toNat - 48 := by
  obtain ⟨hlo, -⟩ := CodePoint.isDigit_iff.1 hc
  have hne : c.toNat ≠ 48 := fun h => h0 (CodePoint.toNat_inj.1 h)
  omega

theorem digit_lt {c : CodePoint} (hc : c.isDigit = true) : c.toNat - 48 < 10 := by
  obtain ⟨-, hhi⟩ := CodePoint.isDigit_iff.1 hc
  omega

theorem digitsValue_lt {digits : List CodePoint} (h : IsDigits digits) :
    digitsValue digits < 10 ^ digits.length := by
  induction digits with
  | nil => simp
  | cons c cs ih =>
      have hc := digit_lt (h c List.mem_cons_self)
      have hcs := ih fun x hx => h x (List.mem_cons_of_mem _ hx)
      rw [digitsValue_cons, List.length_cons, pow_succ]
      nlinarith

/-- A run of digits that does not begin with zero. -/
theorem pow_le_digitsValue {c : CodePoint} {cs : List CodePoint} (hc : c.isDigit = true)
    (h0 : c ≠ '0') :
    10 ^ cs.length ≤ digitsValue (c :: cs) := by
  have := digit_pos hc h0
  rw [digitsValue_cons]
  nlinarith [Nat.zero_le (digitsValue cs), pow_pos (by norm_num : 0 < 10) cs.length]

theorem digitsValue_dropWhile_zero (digits : List CodePoint) :
    digitsValue (digits.dropWhile (· = .char '0')) = digitsValue digits := by
  induction digits with
  | nil => rfl
  | cons c cs ih =>
      by_cases h0 : c = '0'
      · subst h0
        rw [List.dropWhile_cons_of_pos (by decide), ih, digitsValue_cons]
        exact (Nat.zero_mul _ ▸ Nat.zero_add _).symm
      · rw [List.dropWhile_cons_of_neg (by simpa using h0)]

/-! ## The digits of a natural -/

namespace Text

theorem length_decimal (n : ℕ) : (decimal n).length = (Nat.toDigits 10 n).length :=
  List.length_map _

theorem decimal_zero : decimal 0 = ['0'] := rfl

theorem decimal_ne_nil {n : ℕ} : decimal n ≠ [] :=
  mt List.map_eq_nil_iff.1 Nat.toDigits_ne_nil

theorem length_decimal_pos {n : ℕ} : 0 < (decimal n).length :=
  List.length_pos_of_ne_nil decimal_ne_nil

theorem length_decimal_le_iff {n k : ℕ} (hk : 0 < k) : (decimal n).length ≤ k ↔ n < 10 ^ k := by
  rw [length_decimal]
  exact Nat.length_toDigits_le_iff (by norm_num) hk

theorem pow_length_decimal_le {n : ℕ} (hn : 0 < n) : 10 ^ ((decimal n).length - 1) ≤ n := by
  by_contra h
  have hpos : 0 < (decimal n).length - 1 := by
    by_contra h0
    rw [Nat.eq_zero_of_not_pos h0] at h
    omega
  have := (length_decimal_le_iff hpos).2 (not_le.1 h)
  omega

/-- The digits of a positive natural do not begin with zero. -/
theorem exists_decimal_eq_cons {n : ℕ} (hn : 0 < n) :
    ∃ c cs, decimal n = c :: cs ∧ c.isDigit = true ∧ c ≠ '0' := by
  have hdigits := IsDigits.decimal n
  have hvalue := digitsValue_decimal n
  have hlen := pow_length_decimal_le hn
  cases h : decimal n with
  | nil => exact absurd h decimal_ne_nil
  | cons c cs =>
      rw [h] at hdigits hvalue hlen
      refine ⟨c, cs, rfl, hdigits c List.mem_cons_self, ?_⟩
      rintro rfl
      have hlt := digitsValue_lt fun x hx => hdigits x (List.mem_cons_of_mem _ hx)
      have hzero : (CodePoint.char '0').toNat - 48 = 0 := rfl
      rw [List.length_cons, Nat.add_sub_cancel] at hlen
      rw [digitsValue_cons, hzero, zero_mul, zero_add] at hvalue
      omega

/-! ## Padded numbers -/

theorem toList_padded (width n : ℕ) :
    (padded width n).toList = zeros (width - (decimal n).length) ++ decimal n :=
  rfl

theorem isDigits_padded (width n : ℕ) : IsDigits (padded width n).toList := by
  rw [toList_padded]
  exact (IsDigits.zeros _).append (IsDigits.decimal n)

/-- Zeros before a number do not change it. -/
theorem digitsValue_padded (width n : ℕ) : digitsValue (padded width n).toList = n := by
  rw [toList_padded, digitsValue_append, digitsValue_zeros, digitsValue_decimal]
  simp

theorem length_padded {width n : ℕ} (hwidth : 0 < width) (h : n < 10 ^ width) :
    (padded width n).toList.length = width := by
  have hlength := (length_decimal_le_iff hwidth).2 h
  rw [toList_padded, List.length_append, length_zeros, Nat.sub_add_cancel hlength]

/-- A number that fits into its width is cut from the front of a text. -/
theorem eq_of_padded_append_eq {width m n : ℕ} (hwidth : 0 < width) (hm : m < 10 ^ width)
    (hn : n < 10 ^ width) {s t : List CodePoint}
    (h : (padded width m).toList ++ s = (padded width n).toList ++ t) : m = n ∧ s = t := by
  have hlength : (padded width m).toList.length = (padded width n).toList.length := by
    rw [length_padded hwidth hm, length_padded hwidth hn]
  obtain ⟨hdigits, hrest⟩ := List.append_inj h hlength
  refine ⟨?_, hrest⟩
  rw [← digitsValue_padded width m, hdigits, digitsValue_padded]

end Text

end Winnow
