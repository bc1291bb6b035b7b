import Winnow.Proofs.Number.Digits

/-!
# The characters of numbers

A number is written with digits and a few marks, whatever number it is.

* `numberMarks` — the characters besides digits.
* `IsNumberText` — texts of digits and marks.
* `isNumberText_numberWrite` — the text of a number.
-/

namespace Winnow

/-- The characters of signs, points, exponents and of the names of what no digits write. -/
def numberMarks : List CodePoint := ['+', '-', '.', 'e', 'I', 'N', 'a', 'f', 'i', 'n', 't', 'y']

/-- A text of digits and marks of numbers. -/
def IsNumberText (s : List CodePoint) : Prop := ∀ c ∈ s, c.isDigit = true ∨ c ∈ numberMarks

namespace IsNumberText

variable {a b s : List CodePoint}

/-- What holds of digits and marks holds of every character. -/
theorem forall_mem (h : IsNumberText s) {p : CodePoint → Prop}
    (hdigit : ∀ c, c.isDigit = true → p c)
    (hmark : ∀ c ∈ numberMarks, p c) : ∀ c ∈ s, p c :=
  fun c hc => (h c hc).elim (hdigit c) (hmark c)

theorem nil : IsNumberText [] := fun _ hc => absurd hc List.not_mem_nil

theorem append (ha : IsNumberText a) (hb : IsNumberText b) : IsNumberText (a ++ b) :=
  List.forall_mem_append.2 ⟨ha, hb⟩

theorem mark {c : CodePoint} (hc : c ∈ numberMarks) (hs : IsNumberText s) : IsNumberText (c :: s) :=
  List.forall_mem_cons.2 ⟨.inr hc, hs⟩

theorem digit {c : CodePoint} (hc : c.isDigit = true) (hs : IsNumberText s) :
    IsNumberText (c :: s) :=
  List.forall_mem_cons.2 ⟨.inl hc, hs⟩

theorem digits (h : IsDigits s) : IsNumberText s := fun c hc => .inl (h c hc)

theorem marks (h : s ⊆ numberMarks) : IsNumberText s := fun _ hc => .inr (h hc)

theorem signed {negative : Prop} [Decidable negative] (h : IsNumberText s) :
    IsNumberText (if negative then '-' :: s else s) := by
  split_ifs
  · exact .mark (by decide) h
  · exact h

end IsNumberText

theorem isNumberText_writeExponent (e : ℤ) : IsNumberText (FloatLayout.plain.writeExponent e) := by
  have hdigits := (IsDigits.zeros (2 - (Text.decimal e.natAbs).length)).append
    (IsDigits.decimal e.natAbs)
  refine .mark (by decide) (.mark ?_ (.digits hdigits))
  split_ifs <;> decide

theorem isNumberText_writeDigits {digits : List CodePoint} (h : IsDigits digits) (point : ℤ) :
    IsNumberText (FloatLayout.plain.writeDigits digits point) := by
  have hzeros : ∀ n, IsNumberText (Text.zeros n) := fun n => .digits (.zeros n)
  have htake : IsNumberText (digits.take point.toNat) := .digits (h.sublist (List.take_sublist _ _))
  unfold FloatLayout.writeDigits
  dsimp only
  split_ifs
  · split
    · next d => exact .digit (h d List.mem_cons_self) (isNumberText_writeExponent _)
    · next d ds _ =>
        have hds : IsDigits ds := h.sublist (List.sublist_cons_self d ds)
        exact .digit (h d List.mem_cons_self)
          (.mark (by decide) ((IsNumberText.digits hds).append (isNumberText_writeExponent _)))
    · exact .nil
  · exact .digit rfl (.mark (by decide) ((hzeros _).append (.digits h)))
  · exact (htake.append (hzeros _)).append (.mark (by decide) (.digit rfl .nil))
  · exact htake.append (.mark (by decide) (.digits (h.sublist (List.drop_sublist _ _))))

theorem isNumberText_write (x : Float) : IsNumberText (FloatLayout.plain.write x) := by
  rw [FloatLayout.write]
  split
  · exact .marks (by decide)
  · exact .signed (.marks (by decide))
  · refine .signed ?_
    split_ifs
    · exact .digit rfl (.mark (by decide) (.digit rfl .nil))
    · exact isNumberText_writeDigits (IsDigits.decimal _) _

/-- **A number is written with digits and marks.** -/
theorem isNumberText_numberWrite {n : Number} {text : List CodePoint} (h : n.write = .ok text) :
    IsNumberText text := by
  cases n with
  | int n =>
      rw [Number.write] at h
      split_ifs at h
      obtain rfl := Except.ok.inj h
      exact .signed (.digits (IsDigits.decimal _))
  | float x =>
      obtain rfl := Except.ok.inj h
      exact isNumberText_write x
  | undefined origin =>
      obtain rfl := Except.ok.inj h
      exact .marks (by decide)

end Winnow
