import Winnow.Config.Tree
import Winnow.Proofs.Number.Bits

/-!
# Keys of one entry

Different keys may lead to one entry of a mapping: numbers of one value, a boolean and its number,
times in different zones. Every key has an identity, which is all that counts of it, so that leading
to one entry is an equivalence.

* `Key.Identity`, `Key.identity` — what counts of a key.
* `Key.same_iff` — two keys lead to one entry if they have one identity.
* `Key.same_refl`, `Key.same_comm`, `Key.same_congr` — the laws of an equivalence.
-/

namespace Winnow

/-! ## Numbers -/

namespace Parts

/-- A float is no number if its parts say so. -/
theorem isNaN_iff {x : Float} : x.isNaN = true ↔ ofFloat x = .nan := by
  have hunpacked : x.isNaN = (ofFloat x).unpacked.isNaN := by
    rw [← unpack_toModel]
    rfl
  rw [hunpacked]
  cases ofFloat x with
  | finite negative m q =>
      rw [unpacked]
      split <;> simp [Float.Model.UnpackedFloat.isNaN]
  | infinite negative => simp [unpacked, Float.Model.UnpackedFloat.isNaN]
  | nan => simp [unpacked, Float.Model.UnpackedFloat.isNaN]

end Parts

namespace Number

/-- The computation whose outcome is not a number. -/
def origin? : Number → Option Origin
  | .undefined origin => some origin
  | _ => none

/-- A float has no place on the number line if it is no number. -/
theorem point?_float_eq_none_iff {x : Float} : (Number.float x).point? = none ↔ x.isNaN = true := by
  rw [Parts.isNaN_iff, point?]
  cases Parts.ofFloat x with
  | finite negative m q => simp [Point.ofParts]
  | infinite negative => cases negative <;> simp [Point.ofParts]
  | nan => simp [Point.ofParts]

/-- Numbers are equal in value if they have one place. -/
theorem eq_iff {m n : Number} : m.eq n = true ↔ m.point? = n.point? ∧ m.point? ≠ none := by
  unfold eq compareBy
  cases m.point? <;> cases n.point? <;> simp

/-- Numbers are the same if they have one place, or none and one origin. -/
theorem same_iff {m n : Number} :
    m.same n = true ↔ m.point? = n.point? ∧ m.origin? = n.origin? := by
  unfold same
  rw [Bool.or_eq_true, eq_iff]
  split
  · -- two floats: both have no place, or neither of them
    next x y =>
      rw [Bool.and_eq_true, ← point?_float_eq_none_iff, ← point?_float_eq_none_iff]
      constructor
      · rintro (⟨h, -⟩ | ⟨hx, hy⟩)
        · exact ⟨h, rfl⟩
        · exact ⟨hx.trans hy.symm, rfl⟩
      · rintro ⟨h, -⟩
        by_cases hx : (Number.float x).point? = none
        · exact .inr ⟨hx, h ▸ hx⟩
        · exact .inl ⟨h, hx⟩
  · simp [point?, origin?]
  · -- an integer has a place, and so has a number of the same value
    next hfloats houtcomes =>
      simp only [Bool.false_eq_true, or_false]
      constructor
      · rintro ⟨h, hplace⟩
        refine ⟨h, ?_⟩
        cases m <;> cases n <;> simp_all [point?, origin?]
      · rintro ⟨h, horigin⟩
        refine ⟨h, fun hm => ?_⟩
        have hn : n.point? = none := h ▸ hm
        cases m <;> cases n <;> simp_all [point?, origin?]

end Number

/-! ## Moments -/

namespace Yaml.Moment

/-- What counts of a moment: its instant if it is in a zone, and otherwise all of it. -/
def identity (m : Moment) : Int ⊕ Moment :=
  match m.clock.bind fun c => c.zone.map (m.instant c) with
  | some n => .inl n
  | none => .inr m

theorem same_iff {m n : Moment} : m.same n = true ↔ m.identity = n.identity := by
  unfold same identity
  cases hm : m.clock with
  | none =>
      cases hn : n.clock with
      | none => simp
      | some d => cases hd : d.zone <;> simp [hd, ne_of_apply_ne clock, hm, hn]
  | some c =>
      have hne : ∀ d, n.clock = some d → c.zone ≠ d.zone → m ≠ n := by
        rintro d hn hzone rfl
        exact hzone (congrArg Clock.zone (Option.some.inj (hm.symm.trans hn)))
      cases hn : n.clock with
      | none => cases hc : c.zone <;> simp [hc, ne_of_apply_ne clock, hm, hn]
      | some d =>
          have hd := hne d hn
          cases hc : c.zone <;> cases hz : d.zone <;> simp_all

end Yaml.Moment

namespace Config.Key

/-- What counts of a key. -/
inductive Identity where
  | null
  | number (place : Option Point) (origin : Option Origin)
  | text (s : Text)
  | moment (m : Int ⊕ Yaml.Moment)

/-- The identity of a key; a boolean counts as its number. -/
def identity (k : Key) : Identity :=
  match k.number?, k with
  | some n, _ => .number n.point? n.origin?
  | none, text s => .text s
  | none, moment m => .moment m.identity
  | none, _ => .null

/-- **Keys lead to one entry** if they have one identity. -/
theorem same_iff {j k : Key} : j.same k = true ↔ j.identity = k.identity := by
  cases j <;> cases k <;>
    simp [same, identity, number?, Number.same_iff, Yaml.Moment.same_iff]

theorem same_refl (k : Key) : k.same k = true := same_iff.2 rfl

theorem same_comm (j k : Key) : j.same k = k.same j := by
  rw [Bool.eq_iff_iff, same_iff, same_iff, eq_comm]

/-- Keys that lead to one entry are the same as the same keys. -/
theorem same_congr {j k : Key} (h : j.same k = true) (i : Key) : i.same j = i.same k := by
  rw [Bool.eq_iff_iff, same_iff, same_iff, same_iff.1 h]

theorem same_congr_left {j k : Key} (h : j.same k = true) (i : Key) : j.same i = k.same i := by
  rw [Bool.eq_iff_iff, same_iff, same_iff, same_iff.1 h]

end Config.Key

end Winnow
