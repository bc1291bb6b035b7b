import Winnow.Proofs.Json.Characters
import Winnow.Proofs.Json.Writable
import Winnow.Proofs.Text.Encoding

/-!
# Halves in written values

A half that stands alone in a text of a value stands in the JSON text of the value too, as it is.
Such a JSON text is well formed, but no file can hold it.

* `IsHalved` — a text in which a half stands alone.
* `HasHalves` — values with such a text or key, at any depth.
* `hasHalf_writeString_iff`, `hasHalf_writeKey_iff` — the halves of strings and keys.
* `hasHalf_writeValue_iff`, `hasHalf_write_iff` — the halves of whole values.
-/

namespace Winnow

namespace Expr.Item

/-- A text in which a half stands alone. -/
inductive IsHalved : Item → Prop
  | text {s : Text} (h : HasHalf s.toList) : IsHalved (.text s)

theorem isHalved_text_iff {s : Text} : IsHalved (.text s) ↔ HasHalf s.toList := by
  constructor
  · rintro ⟨hs⟩
    exact hs
  · exact .text

/-- A half stands alone in some text of a value, or in a key. -/
def HasHalves (v : Item) : Prop := ∃ x n, StandsIn x n v ∧ IsHalved x

theorem hasHalves_of_not_isNest {v : Item} (hnest : ¬IsNest v) : HasHalves v ↔ IsHalved v := by
  constructor
  · rintro ⟨x, n, hx, hhalved⟩
    cases hx with
    | self => exact hhalved
    | item _ _ => exact absurd (.array _) hnest
    | key _ _ => exact absurd (.object _) hnest
    | value _ _ => exact absurd (.object _) hnest
  · exact fun h => ⟨v, 0, .self, h⟩

theorem hasHalves_array_iff {items : List Item} :
    HasHalves (.array items) ↔ ∃ item ∈ items, HasHalves item := by
  constructor
  · rintro ⟨x, n, hx, hhalved⟩
    cases hx with
    | self => cases hhalved
    | item hitem hx => exact ⟨_, hitem, x, _, hx, hhalved⟩
  · rintro ⟨item, hitem, x, n, hx, hhalved⟩
    exact ⟨x, n + 1, .item hitem hx, hhalved⟩

theorem hasHalves_object_iff {entries : List (Key × Item)} :
    HasHalves (.object entries) ↔ ∃ entry ∈ entries, IsHalved entry.1.item ∨ HasHalves entry.2 := by
  constructor
  · rintro ⟨x, n, hx, hhalved⟩
    cases hx with
    | self => cases hhalved
    | key hentry h => exact ⟨_, hentry, .inl (h ▸ hhalved)⟩
    | value hentry hx => exact ⟨_, hentry, .inr ⟨x, _, hx, hhalved⟩⟩
  · rintro ⟨entry, hentry, hhalved | ⟨x, n, hx, hhalved⟩⟩
    · exact ⟨entry.1.item, 1, .key hentry rfl, hhalved⟩
    · exact ⟨x, n + 1, .value hentry hx, hhalved⟩

end Expr.Item

namespace Json

open Winnow.Expr (Key Reference)
open Winnow.Expr.Item (HasHalves IsHalved hasHalves_array_iff hasHalves_object_iff
  hasHalves_of_not_isNest isHalved_text_iff)

/-! ## Parts -/

/-- A half is written as it is, and no other code point is written with halves. -/
theorem half_mem_writeChar {n : Fin 0x800} {c : CodePoint} :
    .half n ∈ writeChar false c ↔ c = .half n := by
  cases c with
  | half m =>
      have hlarge : ¬CodePoint.firstHalf + m.val < 0x20 := by simp [CodePoint.firstHalf]; omega
      simp [writeChar, CodePoint.toNat, hlarge, eq_comm]
  | char c =>
      have hplain : HoldsOfPlain (· ≠ .half n) := by
        rintro d - hhigh rfl
        rw [CodePoint.toNat, CodePoint.firstHalf] at hhigh
        omega
      have hne : CodePoint.char c ≠ .half n := by rintro ⟨⟩
      exact iff_of_false (fun hmem => forall_mem_writeChar hplain (fun _ => hne) _ hmem rfl) hne

theorem hasHalf_writeString_iff {s : List CodePoint} :
    HasHalf (writeString false s) ↔ HasHalf s := by
  simp [HasHalf, writeString, half_mem_writeChar]

theorem not_hasHalf_numberWrite {n : Number} {text : List CodePoint} (h : n.write = .ok text) :
    ¬HasHalf text := by
  refine HasHalf.not_of_forall_lt fun c hc => ?_
  have hhigh := (seen_of_mem_numberWrite h c hc).2.1
  rw [CodePoint.firstHalf]
  omega

section

variable {l : Layout Key Reference} {width : ℕ} (hl : l.IsIndented width)

theorem not_hasHalf_lineBreak (level : ℕ) : ¬HasHalf (l.lineBreak level) := by
  rintro ⟨n, hn⟩
  rcases eq_of_isSpace (l.isSpace_of_mem_lineBreak level _ hn) with h | h | h | h <;> cases h

include hl

/-- A key is written with a half if its text has one. -/
theorem hasHalf_writeKey_iff {key : Key} {name : List CodePoint} (h : writeKey l key = .ok name) :
    HasHalf name ↔ IsHalved key.item := by
  obtain ⟨text, htext, h⟩ := exists_of_bind_eq_ok h
  obtain rfl := Except.ok.inj h
  have hmark : ¬HasHalf l.keyMark := by simp [hl.keyMark, HasHalf]
  rw [hl.asciiOnly, HasHalf.append_iff, or_iff_left hmark, hasHalf_writeString_iff]
  cases key with
  | null =>
      obtain rfl := Except.ok.inj htext
      exact iff_of_false (by simp [HasHalf]) (by rintro ⟨⟩)
  | bool b =>
      obtain rfl := Except.ok.inj htext
      exact iff_of_false (by cases b <;> simp [HasHalf]) (by rintro ⟨⟩)
  | number n =>
      exact iff_of_false (not_hasHalf_numberWrite (eq_ok_of_mapError_eq_ok htext)) (by rintro ⟨⟩)
  | text s =>
      obtain rfl := Except.ok.inj htext
      exact isHalved_text_iff.symm
  | reference r => cases htext

theorem hasHalf_writeItems_iff {level : ℕ} {items : List Item}
    (hitems : ∀ item ∈ items, ∀ text, writeValue l level item = .ok text →
      (HasHalf text ↔ HasHalves item))
    {text : List CodePoint} (h : writeItems l level items = .ok text) :
    HasHalf text ↔ ∃ item ∈ items, HasHalves item := by
  induction items generalizing text with
  | nil =>
      obtain rfl := Except.ok.inj h
      simp [HasHalf]
  | cons item items ih =>
      obtain ⟨first, others, hfirst, hothers, rfl⟩ := exists_of_writeItems_cons h
      obtain ⟨hitem, hitems⟩ := List.forall_mem_cons.1 hitems
      have hmark : ¬HasHalf l.itemMark := by simp [hl.itemMark, HasHalf]
      simp [hmark, not_hasHalf_lineBreak, hitem first hfirst, ih hitems hothers]

theorem hasHalf_writeEntries_iff {level : ℕ} {entries : List (Key × Item)}
    (hentries : ∀ entry ∈ entries, ∀ text, writeValue l level entry.2 = .ok text →
      (HasHalf text ↔ HasHalves entry.2))
    {text : List CodePoint} (h : writeEntries l level entries = .ok text) :
    HasHalf text ↔ ∃ entry ∈ entries, IsHalved entry.1.item ∨ HasHalves entry.2 := by
  induction entries generalizing text with
  | nil =>
      obtain rfl := Except.ok.inj h
      simp [HasHalf]
  | cons entry entries ih =>
      obtain ⟨name, first, others, hname, hfirst, hothers, rfl⟩ := exists_of_writeEntries_cons h
      obtain ⟨hentry, hentries⟩ := List.forall_mem_cons.1 hentries
      have hmark : ¬HasHalf l.itemMark := by simp [hl.itemMark, HasHalf]
      simp [hmark, not_hasHalf_lineBreak, hasHalf_writeKey_iff hl hname, hentry first hfirst,
        ih hentries hothers, or_assoc]

/-! ## Values -/

/-- **The text of a value has halves if the value has.** -/
theorem hasHalf_writeValue_iff {v : Item} {level : ℕ} {text : List CodePoint}
    (h : writeValue l level v = .ok text) : HasHalf text ↔ HasHalves v := by
  induction v using Value.inductionOn generalizing level text with
  | null =>
      obtain rfl := Except.ok.inj h
      rw [hasHalves_of_not_isNest (v := .null) (by rintro ⟨⟩)]
      exact iff_of_false (by simp [HasHalf]) (by rintro ⟨⟩)
  | bool b =>
      rw [hasHalves_of_not_isNest (v := .bool b) (by rintro ⟨⟩)]
      cases b <;>
      · obtain rfl := Except.ok.inj h
        exact iff_of_false (by simp [HasHalf]) (by rintro ⟨⟩)
  | number n =>
      rw [writeValue] at h
      rw [hasHalves_of_not_isNest (v := .number n) (by rintro ⟨⟩)]
      exact iff_of_false (not_hasHalf_numberWrite (eq_ok_of_mapError_eq_ok h)) (by rintro ⟨⟩)
  | text s =>
      obtain rfl := Except.ok.inj h
      rw [hl.asciiOnly, hasHalf_writeString_iff,
        hasHalves_of_not_isNest (v := .text s) (by rintro ⟨⟩), isHalved_text_iff]
  | array items ih =>
      rw [hasHalves_array_iff]
      obtain ⟨rfl, rfl⟩ | ⟨item, items, first, others, rfl, hfirst, hothers, rfl⟩ :=
        writeValue_array_cases h
      · simp [HasHalf]
      · obtain ⟨hitem, hitems⟩ := List.forall_mem_cons.1 ih
        have hrest := hasHalf_writeItems_iff hl (fun i hi _ => hitems i hi) hothers
        simp [not_hasHalf_lineBreak, hitem hfirst, hrest, HasHalf.not_nil]
  | object entries ih =>
      rw [hasHalves_object_iff]
      obtain ⟨rfl, rfl⟩ | ⟨entry, entries, name, first, others, rfl, hname, hfirst, hothers, rfl⟩ :=
        writeValue_object_cases h
      · simp [HasHalf]
      · obtain ⟨hentry, hentries⟩ := List.forall_mem_cons.1 ih
        have hrest := hasHalf_writeEntries_iff hl (fun e he _ => hentries e he) hothers
        simp [not_hasHalf_lineBreak, hasHalf_writeKey_iff hl hname, hentry hfirst, hrest,
          HasHalf.not_nil, or_assoc]
  | reference r => cases h

/-- **No file can hold the text of a value with halves**: the text has them too. -/
theorem hasHalf_write_iff {v : Item} {text : Text} (h : write l v = .ok text) :
    HasHalf text.toList ↔ HasHalves v := by
  obtain ⟨s, hs, rfl⟩ := exists_writeValue_of_write h
  exact hasHalf_writeValue_iff hl hs

end

end Json

end Winnow
