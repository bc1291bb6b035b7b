import Winnow.Proofs.Number.Digits
import Winnow.Timestamp

/-!
# Times are told apart by their marks

The numbers of a mark are padded to fixed widths, so a mark can be cut back into them.

* `Timestamp.InRange` — times with the numbers of a calendar and of a clock.
* `isMark_resultMark`, `length_resultMark` — the characters of a mark.
* `eq_of_resultMark_eq` — times of one mark are one time.
-/

namespace Winnow.Timestamp

open Text (padded isDigits_padded digitsValue_padded length_padded eq_of_padded_append_eq)

/-! ## Marks -/

/-- A time of which the numbers are those of a calendar and of a clock. -/
structure InRange (t : Timestamp) : Prop where
  year : t.year ≤ 9999
  month : t.month ≤ 12
  day : t.day ≤ 31
  hour : t.hour < 24
  minute : t.minute < 60
  second : t.second < 60

theorem toList_resultMark (t : Timestamp) :
    t.resultMark.toList =
      (padded 4 t.year).toList ++ ((padded 2 t.month).toList ++ ((padded 2 t.day).toList ++
        (.char '_' :: ((padded 2 t.hour).toList ++ ((padded 2 t.minute).toList ++
          (padded 2 t.second).toList))))) := by
  simp [resultMark, clock]

/-- A mark is made of digits and an underscore. -/
theorem isMark_resultMark (t : Timestamp) :
    ∀ c ∈ t.resultMark.toList, c.isDigit = true ∨ c = .char '_' := by
  intro c hc
  simp only [toList_resultMark, List.mem_append, List.mem_cons] at hc
  rcases hc with hc | hc | hc | hc | hc | hc | hc
  · exact .inl (isDigits_padded 4 t.year c hc)
  · exact .inl (isDigits_padded 2 t.month c hc)
  · exact .inl (isDigits_padded 2 t.day c hc)
  · exact .inr hc
  · exact .inl (isDigits_padded 2 t.hour c hc)
  · exact .inl (isDigits_padded 2 t.minute c hc)
  · exact .inl (isDigits_padded 2 t.second c hc)

theorem length_resultMark {t : Timestamp} (h : t.InRange) : t.resultMark.toList.length = 15 := by
  obtain ⟨hyear, hmonth, hday, hhour, hminute, hsecond⟩ := h
  simp only [toList_resultMark, List.length_append, List.length_cons]
  rw [length_padded (by omega) (by omega), length_padded (by omega) (by omega),
    length_padded (by omega) (by omega), length_padded (by omega) (by omega),
    length_padded (by omega) (by omega), length_padded (by omega) (by omega)]

/-- **Times of one mark are one time.** -/
theorem eq_of_resultMark_eq {t u : Timestamp} (ht : t.InRange) (hu : u.InRange)
    (h : t.resultMark = u.resultMark) : t = u := by
  obtain ⟨hyear, hmonth, hday, hhour, hminute, hsecond⟩ := ht
  obtain ⟨hyear', hmonth', hday', hhour', hminute', hsecond'⟩ := hu
  have hmark := congrArg Text.toList h
  rw [toList_resultMark, toList_resultMark] at hmark
  obtain ⟨heq₁, hmark⟩ := eq_of_padded_append_eq (by omega) (by omega) (by omega) hmark
  obtain ⟨heq₂, hmark⟩ := eq_of_padded_append_eq (by omega) (by omega) (by omega) hmark
  obtain ⟨heq₃, hmark⟩ := eq_of_padded_append_eq (by omega) (by omega) (by omega) hmark
  obtain ⟨-, hmark⟩ := List.cons.inj hmark
  obtain ⟨heq₄, hmark⟩ := eq_of_padded_append_eq (by omega) (by omega) (by omega) hmark
  obtain ⟨heq₅, hmark⟩ := eq_of_padded_append_eq (by omega) (by omega) (by omega) hmark
  have heq₆ : t.second = u.second := by
    rw [← digitsValue_padded 2 t.second, hmark, digitsValue_padded]
  cases t
  cases u
  simp_all

end Winnow.Timestamp
