import Winnow.Json.Reader
import Winnow.Json.Writer
import Winnow.Proofs.Text.CodePoints

/-!
# Strings are read back

A string that is written without escaping what is not ASCII is read as the same string. Halves that
stand next to each other stay two: only numbers are taken together, and no half is written by its
number.

* `writeChar_cases` — the three written forms of a code point.
* `Part.Stands` — parts that stand for a code point whatever follows them.
* `readParts_writeChar` — a written code point is read as a part that stands for it.
* `readString_writeString` — a written string is read back.
-/

namespace Winnow.Json

/-! ## Code points -/

/-- A code point is written by a one-letter escape, by its number if it is a control character, or
as it is. -/
theorem writeChar_cases (c : CodePoint) :
    (∃ e d, writeChar false c = [.char '\\', e] ∧ escapeChar? e = some d ∧ c = d ∧ e ≠ 'u') ∨
      (writeChar false c = writeUnit c.toNat ∧ c.toNat < 0x20) ∨
      (writeChar false c = [c] ∧ 0x20 ≤ c.toNat ∧ c ≠ '"' ∧ c ≠ '\\') := by
  unfold writeChar
  split
  · exact .inl ⟨'"', _, rfl, rfl, rfl, by decide⟩
  · exact .inl ⟨'\\', _, rfl, rfl, rfl, by decide⟩
  · exact .inl ⟨'n', _, rfl, rfl, rfl, by decide⟩
  · exact .inl ⟨'r', _, rfl, rfl, rfl, by decide⟩
  · exact .inl ⟨'t', _, rfl, rfl, rfl, by decide⟩
  · exact .inl ⟨'b', _, rfl, rfl, rfl, by decide⟩
  · exact .inl ⟨'f', _, rfl, rfl, rfl, by decide⟩
  · next hquote hslash _ _ _ _ _ =>
      by_cases hcontrol : c.toNat < 0x20
      · exact .inr (.inl ⟨if_pos hcontrol, hcontrol⟩)
      · refine .inr (.inr ⟨?_, not_lt.1 hcontrol, hquote, hslash⟩)
        rw [if_neg hcontrol, Bool.not_false, Bool.true_or, if_pos rfl]

theorem hexNumber?_hexDigits_small :
    ∀ n : Fin 32, Text.hexNumber? (Text.hexDigits 4 n) = some n.val := by decide

/-- The four digits of a control character. -/
theorem exists_writeUnit_eq {n : ℕ} (hn : n < 0x20) :
    ∃ a b c d, writeUnit n = [.char '\\', .char 'u', a, b, c, d] ∧
      Text.hexNumber? [a, b, c, d] = some n :=
  ⟨_, _, _, _, rfl, hexNumber?_hexDigits_small ⟨n, hn⟩⟩

/-! ## Parts -/

theorem readParts_escape {e : CodePoint} {d : Char} (he : escapeChar? e = some d) (hu : e ≠ 'u')
    (rest : List CodePoint) :
    readParts (.char '\\' :: e :: rest) = (readParts rest).map fun p => (.plain d :: p.1, p.2) := by
  rw [readParts.eq_4 _ _ (fun a b c d _ h _ => hu h), he]
  cases readParts rest <;> rfl

theorem readParts_unit {a b c d : CodePoint} {n : ℕ} (hn : Text.hexNumber? [a, b, c, d] = some n)
    (rest : List CodePoint) :
    readParts (.char '\\' :: .char 'u' :: a :: b :: c :: d :: rest) =
      (readParts rest).map fun p => (.unit n :: p.1, p.2) := by
  rw [readParts, hn]
  cases readParts rest <;> rfl

theorem readParts_plain {c : CodePoint} (hcontrol : 0x20 ≤ c.toNat) (hquote : c ≠ '"')
    (hslash : c ≠ '\\') (rest : List CodePoint) :
    readParts (c :: rest) = (readParts rest).map fun p => (.plain c :: p.1, p.2) := by
  have hread : ¬(decide (c.toNat < 0x20) || decide (c = .char '\\')) = true := by
    simpa using ⟨hcontrol, hslash⟩
  rw [readParts.eq_5, if_neg hread]
  · cases readParts rest <;> rfl
  · exact hquote
  · exact fun _ _ _ _ _ h => absurd h hslash
  · exact fun _ _ h => absurd h hslash

/-- A part that stands for a code point whatever follows it: the code point itself, or the number of
a control character. -/
inductive Part.Stands (c : CodePoint) : Part → Prop
  | plain : Stands c (.plain c)
  | control {n : ℕ} (hn : n < 0x20) (hc : CodePoint.ofNat n = c) : Stands c (.unit n)

/-- A written code point is read as a part that stands for it. -/
theorem readParts_writeChar (c : CodePoint) : ∃ p : Part, p.Stands c ∧
    ∀ rest, readParts (writeChar false c ++ rest) = (readParts rest).map fun q =>
      (p :: q.1, q.2) := by
  rcases writeChar_cases c with ⟨e, d, h, he, rfl, hu⟩ | ⟨h, hn⟩ | ⟨h, hcontrol, hquote, hslash⟩
  · rw [h]
    exact ⟨_, .plain, readParts_escape he hu⟩
  · obtain ⟨a, b, x, d, hunit, hread⟩ := exists_writeUnit_eq hn
    rw [h, hunit]
    exact ⟨_, .control hn (CodePoint.ofNat_toNat c), readParts_unit hread⟩
  · rw [h]
    exact ⟨_, .plain, readParts_plain hcontrol hquote hslash⟩

/-- The number of a control character is taken together with no other. -/
theorem combineParts_cons {c : CodePoint} {p : Part} (h : p.Stands c) (parts : List Part) :
    combineParts (p :: parts) = c :: combineParts parts := by
  cases h with
  | plain => rw [combineParts]
  | @control n hn hc =>
      have hhigh : isHighHalf n = false := by
        simp only [isHighHalf, Bool.and_eq_false_iff, decide_eq_false_iff_not]
        omega
      cases parts with
      | nil => rw [combineParts, hc]; exact fun _ _ h => nomatch h
      | cons q parts =>
          cases q with
          | unit low => rw [combineParts, hhigh, Bool.false_and, if_neg Bool.false_ne_true, hc]
          | plain d => rw [combineParts, hc]; exact fun _ _ h => nomatch h

/-! ## Strings -/

theorem exists_readParts (s rest : List CodePoint) :
    ∃ parts, readParts (s.flatMap (writeChar false) ++ .char '"' :: rest) = some (parts, rest) ∧
      combineParts parts = s := by
  induction s with
  | nil => exact ⟨[], rfl, rfl⟩
  | cons c s ih =>
      obtain ⟨parts, hread, hparts⟩ := ih
      obtain ⟨p, hp, hc⟩ := readParts_writeChar c
      refine ⟨p :: parts, ?_, ?_⟩
      · rw [List.flatMap_cons, List.append_assoc, hc, hread]
        rfl
      · rw [combineParts_cons hp, hparts]

/-- **A written string is read back.** -/
theorem readString_writeString (s rest : List CodePoint) :
    readString (s.flatMap (writeChar false) ++ .char '"' :: rest) = some (Text.ofList s, rest) := by
  obtain ⟨parts, hread, hparts⟩ := exists_readParts s rest
  rw [readString, hread, Option.map_some]
  exact congrArg (fun t => some (Text.ofList t, rest)) hparts

end Winnow.Json
