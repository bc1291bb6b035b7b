import Mathlib
import Winnow.Proofs.Text.CodePoints
import Winnow.Text.Blank
import Winnow.Text.Case

/-!
# Words in any case, with blanks around them

Words such as the directions of a sort are compared without the blanks around them and in lower
case.

* `SpelledL`, `Spelled` — a word in any case of its ASCII letters, with blanks around it.
* `IsCore`, `isCore_iff` — what trimming takes away, and what it leaves.
* `lowerL_of_ascii`, `map_toLower_of_lowerL` — lower case among the ASCII characters.
* `lower_trim_eq_iff` — the texts that are a word once they are trimmed and in lower case.
-/

namespace Winnow.Text

/-- Characters that spell a word, in any case of its ASCII letters and with blanks around it. -/
def SpelledL (word s : List CodePoint) : Prop :=
  ∃ before cased after, s = before ++ cased ++ after ∧ (∀ c ∈ before, isBlank c = true) ∧
    (∀ c ∈ after, isBlank c = true) ∧ cased.map CodePoint.toLower = word

/-- A text that spells a word, in any case of its ASCII letters and with blanks around it. -/
def Spelled (word s : Text) : Prop := SpelledL word.toList s.toList

/-! ## Trimming -/

theorem dropWhile_append_of_blank {before : List CodePoint} (h : ∀ c ∈ before, isBlank c = true)
    (s : List CodePoint) : (before ++ s).dropWhile isBlank = s.dropWhile isBlank := by
  induction before with
  | nil => rfl
  | cons c before ih =>
      rw [List.cons_append, List.dropWhile_cons_of_pos (h c (List.mem_cons_self ..))]
      exact ih fun d hd => h d (List.mem_cons_of_mem c hd)

theorem dropWhile_append_of_not_blank {word : List CodePoint}
    (h : ∀ c ∈ word.head?, isBlank c = false)
    (hne : word ≠ []) (s : List CodePoint) : (word ++ s).dropWhile isBlank = word ++ s := by
  cases word with
  | nil => exact absurd rfl hne
  | cons c word =>
      have hc : ¬isBlank c = true := by simp [h c rfl]
      rw [List.cons_append, List.dropWhile_cons_of_neg hc]

/-- What a text is without the blanks at its ends. -/
structure IsCore (core s : List CodePoint) : Prop where
  around : ∃ before after, s = before ++ core ++ after ∧ (∀ c ∈ before, isBlank c = true) ∧
    ∀ c ∈ after, isBlank c = true
  head : ∀ c ∈ core.head?, isBlank c = false
  last : ∀ c ∈ core.getLast?, isBlank c = false

/-- Trimming takes blanks away, and nothing else. -/
theorem isCore_trimL (s : List CodePoint) : IsCore (trimL s) s := by
  have hblank : ∀ t : List CodePoint, ∀ c ∈ t.takeWhile isBlank, isBlank c = true := fun t c hc =>
    List.mem_takeWhile_imp hc
  have hstart : ∀ t : List CodePoint, ∀ c ∈ (t.dropWhile isBlank).head?, isBlank c = false := by
    intro t c hc
    have hnot := List.head?_dropWhile_not isBlank t
    rwa [Option.mem_def.1 hc] at hnot
  have hend : s.dropWhile isBlank =
      trimL s ++ ((s.dropWhile isBlank).reverse.takeWhile isBlank).reverse := by
    rw [trimL, ← List.reverse_append, List.takeWhile_append_dropWhile, List.reverse_reverse]
  refine ⟨⟨s.takeWhile isBlank, ((s.dropWhile isBlank).reverse.takeWhile isBlank).reverse, ?_,
    hblank s, fun c hc => hblank _ c (List.mem_reverse.1 hc)⟩, fun c hc => hstart s c ?_, ?_⟩
  · rw [List.append_assoc, ← hend, List.takeWhile_append_dropWhile]
  · rw [hend]
    exact List.mem_head?_append_of_mem_head? hc
  · rw [trimL, List.getLast?_reverse]
    exact hstart _

/-- Trimming leaves what is between the blanks. -/
theorem IsCore.trimL_eq {core s : List CodePoint} (h : IsCore core s) : trimL s = core := by
  obtain ⟨⟨before, after, rfl, hbefore, hafter⟩, hhead, hlast⟩ := h
  rw [trimL, List.append_assoc, dropWhile_append_of_blank hbefore]
  by_cases hne : core = []
  · subst hne
    rw [List.nil_append, List.dropWhile_eq_nil_iff.2 hafter]
    rfl
  · have hend : (core ++ after).reverse.dropWhile isBlank = core.reverse := by
      rw [List.reverse_append,
        dropWhile_append_of_blank fun c hc => hafter c (List.mem_reverse.1 hc)]
      have hkept := dropWhile_append_of_not_blank (by rwa [List.head?_reverse])
        (mt List.reverse_eq_nil_iff.1 hne) []
      rwa [List.append_nil] at hkept
    rw [dropWhile_append_of_not_blank hhead hne, hend, List.reverse_reverse]

/-- The core of a text is what trimming leaves of it. -/
theorem isCore_iff {core s : List CodePoint} : IsCore core s ↔ trimL s = core :=
  ⟨IsCore.trimL_eq, fun h => h ▸ isCore_trimL s⟩

/-- A word without blanks is the core of what it makes with blanks around it. -/
theorem isCore_append {before word after : List CodePoint}
    (hbefore : ∀ c ∈ before, isBlank c = true)
    (hafter : ∀ c ∈ after, isBlank c = true) (hword : ∀ c ∈ word, isBlank c = false) :
    IsCore word (before ++ word ++ after) where
  around := ⟨before, after, rfl, hbefore, hafter⟩
  head c hc := hword c (List.mem_of_mem_head? hc)
  last c hc := hword c (List.mem_of_mem_getLast? hc)

/-! ## Lower case -/

/-- Among ASCII characters the lower case does not depend on what stands before. -/
theorem lowerL_of_ascii {s : List CodePoint} (h : ∀ c ∈ s, c.toNat < 0x80)
    (before : List CodePoint) :
    lowerL before s = s.map CodePoint.toLower := by
  induction s generalizing before with
  | nil => rfl
  | cons c s ih =>
      have hc : c.toNat < 0x80 := h c (List.mem_cons_self ..)
      have hsigma : ¬c.toNat = 0x3A3 := by omega
      rw [lowerL, if_neg hsigma, lowerChar, if_pos hc,
        ih fun d hd => h d (List.mem_cons_of_mem c hd)]
      rfl

/-- The run of characters that a shift moves stays outside of the ASCII characters, is one of them,
or is the sign of kelvin alone. -/
theorem lowerShifts_range : ∀ r ∈ lowerShifts,
    (0x80 ≤ (r.first : ℤ) + r.distance ∧ (r.last : ℤ) + r.distance < 0x110000) ∨
      r.last < 0x80 ∨ (r.first = 0x212A ∧ r.last = 0x212A ∧ r.distance = -8383) := by
  decide +kernel

/-- No character but the sign of kelvin moves to an ASCII character from outside of them. -/
theorem shiftBy_lowerShifts {c : CodePoint} (hc : ¬c.toNat < 0x80) {n : ℕ}
    (h : shiftBy lowerShifts c.toNat = some n) :
    0x80 ≤ (CodePoint.ofNat n).toNat ∨ CodePoint.ofNat n = 'k' := by
  obtain ⟨r, hfind, rfl⟩ := Option.map_eq_some_iff.1 h
  have hholds := List.find?_some hfind
  simp only [Bool.and_eq_true, decide_eq_true_eq] at hholds
  obtain ⟨⟨hfirst, hlast⟩, -⟩ := hholds
  rcases lowerShifts_range r (List.mem_of_find?_eq_some hfind) with ⟨hlow, hvalid⟩ | hascii |
    ⟨hkelvin, hkelvin', hdistance⟩
  · left
    rw [CodePoint.toNat_ofNat (by omega)]
    omega
  · omega
  · right
    have hn : c.toNat = 0x212A := by omega
    rw [hn, hdistance]
    rfl

/-- A character whose lower case is one ASCII character other than `k` is itself an ASCII one. -/
theorem toLower_of_lowerChar {c d : CodePoint} (h : lowerChar c = [d]) (hd : d.toNat < 0x80)
    (hk : d ≠ 'k') : c.toLower = d := by
  unfold lowerChar at h
  split_ifs at h with hascii hdot
  · exact List.head_eq_of_cons_eq h
  · cases h
  · exfalso
    split at h
    · next n hshift =>
        have hn := List.head_eq_of_cons_eq h
        rcases shiftBy_lowerShifts hascii hshift with hlarge | hkelvin
        · rw [hn] at hlarge
          omega
        · exact hk (hn ▸ hkelvin)
    · rw [List.head_eq_of_cons_eq h] at hascii
      exact hascii hd

/-- Characters whose lower case is a word of ASCII characters without `k` spell that word in some
case of ASCII letters. -/
theorem map_toLower_of_lowerL {s word before : List CodePoint} (h : lowerL before s = word)
    (hword : ∀ c ∈ word, c.toNat < 0x80 ∧ c ≠ 'k') : s.map CodePoint.toLower = word := by
  induction s generalizing word before with
  | nil => exact h
  | cons c s ih =>
      rw [lowerL] at h
      obtain rfl := h
      have hrest := ih rfl fun d hd => hword d (List.mem_append_right _ hd)
      have himage : ∀ d ∈ (if c.toNat = 0x3A3 then
          [CodePoint.ofNat (if meetsCased before && !meetsCased s then 0x3C2 else 0x3C3)]
          else lowerChar c), d.toNat < 0x80 ∧ d ≠ 'k' :=
        fun d hd => hword d (List.mem_append_left _ hd)
      rw [List.map_cons, hrest]
      split_ifs at himage ⊢ with hsigma hfinal
      · exact absurd (himage _ (List.mem_singleton_self _)).1 (by decide)
      · exact absurd (himage _ (List.mem_singleton_self _)).1 (by decide)
      · obtain ⟨d, hd⟩ : ∃ d, lowerChar c = [d] := by
          unfold lowerChar at himage ⊢
          split_ifs at himage ⊢ with hascii hdot
          · exact ⟨_, rfl⟩
          · exact absurd (himage (CodePoint.ofNat 0x307) (by simp)).1 (by decide)
          · split <;> exact ⟨_, rfl⟩
        rw [hd] at himage ⊢
        obtain ⟨hascii, hk⟩ := himage d (List.mem_singleton_self d)
        rw [toLower_of_lowerChar hd hascii hk]
        rfl

/-! ## Words -/

/-- What is a small letter in lower case is a letter. -/
theorem toNat_bounds_of_isLower_toLower {c : CodePoint} (h : c.toLower.isLower = true) :
    0x41 ≤ c.toNat ∧ c.toNat ≤ 0x7A := by
  cases c with
  | half n => cases h
  | char c =>
      change c.toLower.isLower = true at h
      change 0x41 ≤ c.val.toNat ∧ c.val.toNat ≤ 0x7A
      unfold Char.toLower Char.isLower at h
      split_ifs at h with hupper
      · obtain ⟨hlow, hhigh⟩ := hupper
        have hlow : 0x41 ≤ c.val.toNat := hlow
        have hhigh : c.val.toNat ≤ 0x5A := hhigh
        exact ⟨hlow, hhigh.trans (by decide)⟩
      · simp only [Bool.and_eq_true, decide_eq_true_eq] at h
        have hlow : 0x61 ≤ c.val.toNat := h.1
        exact ⟨le_trans (by decide) hlow, h.2⟩

/-- The ASCII characters that are seen are no blanks. -/
theorem not_isBlank_of_visible {c : CodePoint} (h : 0x21 ≤ c.toNat ∧ c.toNat ≤ 0x7E) :
    isBlank c = false := by
  simp only [isBlank, Bool.or_eq_false_iff, Bool.and_eq_false_iff, decide_eq_false_iff_not,
    beq_eq_false_iff_ne]
  omega

/-- **The texts that spell a word** of small ASCII letters are those that are the word once they are
trimmed and in lower case. The letter `k` is left out, since the sign of kelvin spells it too. -/
theorem lower_trim_eq_iff {word : Text}
    (hword : ∀ c ∈ word.toList, c.isLower = true ∧ c ≠ 'k') (s : Text) :
    lower (trim s) = word ↔ Spelled word s := by
  have hlist : lower (trim s) = word ↔ lowerL [] (trimL s.toList) = word.toList := by
    rw [lower, trim, Text.toList_ofList, ← Text.toList_inj, Text.toList_ofList]
  rw [hlist]
  constructor
  · intro h
    obtain ⟨before, after, hs, hbefore, hafter⟩ := (isCore_trimL s.toList).around
    refine ⟨before, trimL s.toList, after, hs, hbefore, hafter, map_toLower_of_lowerL h ?_⟩
    intro c hc
    obtain ⟨hlower, hk⟩ := hword c hc
    have hz : c.toNat ≤ 0x7A := (CodePoint.isLower_iff.1 hlower).2
    exact ⟨by omega, hk⟩
  · rintro ⟨before, cased, after, hs, hbefore, hafter, hcased⟩
    have hletter : ∀ c ∈ cased, 0x41 ≤ c.toNat ∧ c.toNat ≤ 0x7A := by
      intro c hc
      refine toNat_bounds_of_isLower_toLower (hword _ ?_).1
      rw [← hcased]
      exact List.mem_map_of_mem hc
    have hvisible : ∀ c ∈ cased, isBlank c = false := fun c hc =>
      not_isBlank_of_visible (by have := hletter c hc; omega)
    rw [hs, (isCore_append hbefore hafter hvisible).trimL_eq,
      lowerL_of_ascii (fun c hc => by have := hletter c hc; omega), hcased]

end Winnow.Text
