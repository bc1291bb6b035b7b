import Mathlib
import Winnow.Text.Basic

/-!
# Code points and their numbers

* `CodePoint.toNat_inj`, `CodePoint.ofNat_toNat`, `CodePoint.toNat_ofNat` — a code point is known by
  its number.
* `CodePoint.isDigit_iff`, `CodePoint.isLower` — digits and small letters of ASCII.
* `Text.toList_intercalate`, `Text.intercalate_cons_of_ne_nil`, `Text.intercalate_concat_of_ne_nil`
  — joined texts.
-/

namespace Winnow

namespace CodePoint

/-! ## Numbers -/

@[simp] theorem toNat_char (c : Char) : (char c).toNat = c.toNat := rfl

@[simp] theorem toNat_half (n : Fin 0x800) : (half n).toNat = 0xD800 + n := rfl

/-- The number of a character is that of no half. -/
theorem toNat_char_range (c : Char) : c.toNat < 0xD800 ∨ 0xDFFF < c.toNat ∧ c.toNat < 0x110000 :=
  c.valid

theorem ofNat_toNat (c : CodePoint) : ofNat c.toNat = c := by
  cases c with
  | char c =>
      have hc := toNat_char_range c
      rw [toNat_char, ofNat, dif_neg (by unfold firstHalf; omega), Char.ofNat_toNat]
  | half n =>
      have hn := n.isLt
      rw [toNat_half, ofNat, dif_pos (by unfold firstHalf; omega)]
      exact congrArg half (Fin.ext (Nat.add_sub_cancel_left firstHalf n))

theorem toNat_inj {c d : CodePoint} : c.toNat = d.toNat ↔ c = d :=
  ⟨fun h => by rw [← ofNat_toNat c, h, ofNat_toNat], congrArg toNat⟩

/-- Every number below the end of the table is that of a code point. -/
theorem toNat_ofNat {n : ℕ} (h : n < 0x110000) : (ofNat n).toNat = n := by
  unfold ofNat
  split_ifs with hhalf
  · rw [toNat_half]
    exact Nat.add_sub_cancel' hhalf.2
  · have hvalid : n.isValidChar := by
      unfold firstHalf at hhalf
      unfold Nat.isValidChar
      omega
    rw [toNat_char, Char.toNat_ofNat, if_pos hvalid]

theorem toNat_injective : Function.Injective toNat := fun _ _ h => toNat_inj.1 h

instance : LinearOrder CodePoint := LinearOrder.lift' toNat toNat_injective

/-! ## Characters of ASCII -/

@[simp] theorem isDigit_char (c : Char) : (char c).isDigit = c.isDigit := rfl

@[simp] theorem isAlpha_char (c : Char) : (char c).isAlpha = c.isAlpha := rfl

@[simp] theorem isAlphanum_char (c : Char) : (char c).isAlphanum = c.isAlphanum := rfl

/-- The digits of ASCII are told by their numbers. -/
theorem isDigit_iff {c : CodePoint} : c.isDigit = true ↔ 0x30 ≤ c.toNat ∧ c.toNat ≤ 0x39 := by
  cases c with
  | char c => exact Char.isDigit_iff_toNat
  | half n =>
      refine iff_of_false Bool.false_ne_true ?_
      rw [toNat_half]
      omega

/-- The small letters of ASCII. -/
def isLower : CodePoint → Bool := isChar Char.isLower

theorem isLower_iff {c : CodePoint} : c.isLower = true ↔ 0x61 ≤ c.toNat ∧ c.toNat ≤ 0x7A := by
  cases c with
  | char c =>
      change c.isLower = true ↔ _
      simp only [Char.isLower, Bool.and_eq_true, decide_eq_true_eq]
      exact Iff.rfl
  | half n =>
      refine iff_of_false Bool.false_ne_true ?_
      rw [toNat_half]
      omega

end CodePoint

namespace Text

/-- Texts have an order in which any two of them can be compared. -/
instance : LinearOrder Text := LinearOrder.lift' toList fun _ _ => ext

/-! ## Joined texts -/

theorem isEmpty_iff {s : Text} : s.isEmpty = true ↔ s = "" := by
  rw [isEmpty, List.isEmpty_iff, ← toList_inj, toList_empty]

@[simp] theorem toList_intercalate (mark : Text) (texts : List Text) :
    (intercalate mark texts).toList = mark.toList.intercalate (texts.map toList) :=
  rfl

@[simp] theorem intercalate_singleton (mark s : Text) : intercalate mark [s] = s :=
  ext (by rw [toList_intercalate, List.map_singleton, List.intercalate_singleton])

theorem intercalate_cons_of_ne_nil {mark s : Text} {texts : List Text} (h : texts ≠ []) :
    intercalate mark (s :: texts) = s ++ mark ++ intercalate mark texts := by
  apply ext
  rw [toList_intercalate, List.map_cons,
    List.intercalate_cons_of_ne_nil (mt List.map_eq_nil_iff.1 h)]
  rfl

theorem intercalate_concat_of_ne_nil {mark s : Text} {texts : List Text} (h : texts ≠ []) :
    intercalate mark (texts ++ [s]) = intercalate mark texts ++ (mark ++ s) := by
  induction texts with
  | nil => exact absurd rfl h
  | cons t texts ih =>
      by_cases htexts : texts = []
      · subst htexts
        rw [List.singleton_append, intercalate_cons_of_ne_nil (by simp), intercalate_singleton,
          intercalate_singleton, append_assoc]
      · rw [List.cons_append, intercalate_cons_of_ne_nil (by simp), ih htexts,
          intercalate_cons_of_ne_nil htexts]
        simp only [append_assoc]

end Text

end Winnow
