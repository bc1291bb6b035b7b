import Mathlib
import Winnow.Text.Encoding

/-!
# What can be encoded

* `HasHalf` — lists of code points in which a half stands alone.
* `faultFrom_eq_none_iff` — an encoding succeeds if every half passes.
* `Text.encode_eq_ok_iff` — what is encoded without exception is a text of characters only.
* `Text.exists_encode_error_iff` — any half makes such an encoding fail.
* `Text.escaped_ofString` — a text of characters is not spelled out.
-/

namespace Winnow

/-- Some half stands alone in a list of code points. -/
def HasHalf (s : List CodePoint) : Prop := ∃ n, .half n ∈ s

namespace HasHalf

theorem not_nil : ¬HasHalf [] := fun ⟨_, hn⟩ => nomatch hn

@[simp] theorem append_iff {a b : List CodePoint} : HasHalf (a ++ b) ↔ HasHalf a ∨ HasHalf b := by
  simp only [HasHalf, List.mem_append, exists_or]

@[simp] theorem char_cons_iff {c : Char} {s : List CodePoint} :
    HasHalf (.char c :: s) ↔ HasHalf s := by
  simp [HasHalf]

@[simp] theorem not_map_char (s : List Char) : ¬HasHalf (s.map .char) := by
  rintro ⟨n, hn⟩
  simp at hn

/-- Where all code points are small ones, there is no half among them. -/
theorem not_of_forall_lt {s : List CodePoint} (h : ∀ c ∈ s, c.toNat < CodePoint.firstHalf) :
    ¬HasHalf s := by
  rintro ⟨n, hn⟩
  have hlow := h _ hn
  rw [CodePoint.toNat] at hlow
  omega

end HasHalf

namespace Text

/-- An encoding finds no fault if all halves pass. -/
theorem faultFrom_eq_none_iff (passes : Fin 0x800 → Bool) (position : ℕ) (s : List CodePoint) :
    faultFrom passes position s = none ↔ ∀ n, .half n ∈ s → passes n = true := by
  induction s generalizing position with
  | nil => simp [faultFrom]
  | cons c s ih =>
      cases c with
      | char c => simp [faultFrom, ih]
      | half n =>
          rw [faultFrom]
          split_ifs with hpass
          · rw [ih]
            constructor
            · intro h m hm
              rcases List.mem_cons.1 hm with heq | hm
              · rw [CodePoint.half.inj heq, hpass]
              · exact h m hm
            · exact fun h m hm => h m (List.mem_cons_of_mem _ hm)
          · refine iff_of_false (fun h => nomatch h) fun h => hpass (h n ?_)
            exact List.mem_cons_self

theorem pathFault?_eq_none_iff {s : Text} :
    s.pathFault? = none ↔ ∀ n, .half n ∈ s.toList → isByte n = true :=
  faultFrom_eq_none_iff _ _ _

/-- Code points without halves are those of a text of characters. -/
theorem map_char_filterMap_char? {s : List CodePoint} (h : ∀ n, .half n ∉ s) :
    (s.filterMap CodePoint.char?).map .char = s := by
  induction s with
  | nil => rfl
  | cons c s ih =>
      cases c with
      | char c =>
          have hs : ∀ n, .half n ∉ s := fun n hn => h n (List.mem_cons_of_mem _ hn)
          have hc : CodePoint.char? (.char c) = some c := rfl
          rw [List.filterMap_cons_some hc, List.map_cons, ih hs]
      | half n => exact absurd List.mem_cons_self (h n)

theorem half_notMem_ofString (s : String) (n : Fin 0x800) : .half n ∉ (ofString s).toList := by
  simp

theorem not_hasHalf_ofString (s : String) : ¬HasHalf (ofString s).toList :=
  fun ⟨n, hn⟩ => half_notMem_ofString s n hn

theorem characters_ofString (s : String) : (ofString s).characters = s := by
  have hall : ∀ l : List Char, (l.map CodePoint.char).filterMap CodePoint.char? = l := fun l => by
    rw [List.filterMap_map]
    exact List.filterMap_some
  rw [characters, toList_ofString, hall, String.ofList_toList]

theorem ofString_characters {s : Text} (h : ∀ n, .half n ∉ s.toList) :
    ofString s.characters = s := by
  apply ext
  rw [toList_ofString, characters, String.toList_ofList, map_char_filterMap_char? h]

@[simp] theorem encode_ofString (s : String) : (ofString s).encode = .ok s := by
  have hnone : faultFrom (fun _ => false) 0 (ofString s).toList = none :=
    (faultFrom_eq_none_iff _ _ _).2 fun n hn => absurd hn (half_notMem_ofString s n)
  rw [encode, hnone, characters_ofString]

/-- What is encoded without exception are the texts of characters only. -/
theorem encode_eq_ok_iff {s : Text} {t : String} : s.encode = .ok t ↔ s = ofString t := by
  refine ⟨fun h => ?_, fun h => by rw [h, encode_ofString]⟩
  unfold encode at h
  split at h
  · cases h
  · next hnone =>
      rw [← Except.ok.inj h, ofString_characters]
      exact fun n hn => Bool.false_ne_true ((faultFrom_eq_none_iff _ _ _).1 hnone n hn)

/-- A text cannot be encoded if a half stands in it alone. -/
theorem exists_encode_error_iff {s : Text} :
    (∃ fault, s.encode = .error fault) ↔ HasHalf s.toList := by
  constructor
  · rintro ⟨fault, h⟩
    by_contra hnone
    rw [← ofString_characters (not_exists.1 hnone), encode_ofString] at h
    cases h
  · rintro ⟨n, hn⟩
    cases h : s.encode with
    | error fault => exact ⟨fault, rfl⟩
    | ok t =>
        rw [encode_eq_ok_iff.1 h] at hn
        exact absurd hn (half_notMem_ofString t n)

theorem ofString_injective {s t : String} (h : ofString s = ofString t) : s = t := by
  rw [← characters_ofString s, h, characters_ofString]

theorem ofString_inj {s t : String} : ofString s = ofString t ↔ s = t :=
  ⟨ofString_injective, congrArg _⟩

theorem pointsSize_append (a b : List CodePoint) :
    pointsSize (a ++ b) = pointsSize a + pointsSize b := by
  induction a with
  | nil => simp [pointsSize]
  | cons c rest ih => simp [pointsSize, ih, Nat.add_assoc]

/-- A text of characters is shown as it is. -/
@[simp] theorem escaped_ofString (s : String) : (ofString s).escaped = ofString s := by
  apply ext
  rw [escaped, toList_ofString, List.flatMap_map]
  exact List.map_eq_flatMap.symm

end Text

end Winnow
