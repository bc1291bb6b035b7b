import Mathlib
import Winnow.Config.SpecSetting
import Winnow.Proofs.Outcome

/-!
# What the readers of entries accept

* `asMapping_eq_ok_iff`, `asText_eq_ok_iff`, `asScalar_eq_ok_iff` — the values of one kind.
* `asItems_eq_ok_iff`, `asTexts_eq_ok_iff` — lists, item by item.
* `FieldPath.SpelledBy`, `asPath_eq_ok_iff` — the ways to write a path.
* `required_eq_ok_iff`, `entryOr_eq_ok_iff` — entries of a mapping.
-/

namespace Winnow

open Winnow.Config (Tree Mapping)

/-- The ways to write a path: a list of its segments, a text for a path of one segment, and null or
nothing at all for the empty one. -/
inductive FieldPath.SpelledBy : FieldPath → Option Tree → Prop
  | segments (path : FieldPath) : SpelledBy path (some (.list (path.map .text)))
  | segment (name : Text) : SpelledBy [name] (some (.text name))
  | null : SpelledBy [] (some .null)
  | missing : SpelledBy [] none

namespace Config

variable {key : Text} {value : Tree}

/-! ## Values -/

theorem asMapping_eq_ok_iff {entries : Mapping} :
    asMapping key value = .ok entries ↔ value = .mapping entries := by
  cases value <;> simp [asMapping]

theorem asText_eq_ok_iff {s : Text} : asText key value = .ok s ↔ value = .text s := by
  cases value <;> simp [asText]

/-- A scalar is written as it is in a document. -/
theorem asScalar_eq_ok_iff {v : Scalar} :
    asScalar key value = .ok v ↔ value = Tree.ofDocument v.toDocument := by
  cases value <;> cases v <;> simp [asScalar, Scalar.toDocument, Tree.ofDocument]

/-! ## Lists -/

/-- A list is read item by item. -/
theorem asItems_eq_ok_iff {β : Type} {reader : Text → Tree → Read β} (spelled : β → Tree → Prop)
    (h : ∀ key value b, reader key value = .ok b ↔ spelled b value) {items : List Tree} {i : ℕ}
    {bs : List β} : asItems reader key i items = .ok bs ↔ List.Forall₂ spelled bs items := by
  induction items generalizing i bs with
  | nil =>
      rw [asItems, Except.ok.injEq, List.forall₂_nil_right_iff]
      exact eq_comm
  | cons x items ih =>
      rw [asItems, bind_eq_ok_iff, List.forall₂_cons_right_iff]
      constructor
      · rintro ⟨b, hb, hrest⟩
        obtain ⟨bs', hbs, hrest⟩ := bind_eq_ok_iff.1 hrest
        obtain rfl := Except.ok.inj hrest
        exact ⟨b, bs', (h _ _ _).1 hb, ih.1 hbs, rfl⟩
      · rintro ⟨b, bs', hb, hbs, rfl⟩
        exact ⟨b, (h _ _ _).2 hb, bind_eq_ok_iff.2 ⟨bs', ih.2 hbs, rfl⟩⟩

theorem asList_eq_ok_iff {β : Type} {reader : Text → Tree → Read β} (spelled : β → Tree → Prop)
    (h : ∀ key value b, reader key value = .ok b ↔ spelled b value) {bs : List β} :
    asList reader key value = .ok bs ↔
      ∃ items, value = .list items ∧ List.Forall₂ spelled bs items := by
  cases value with
  | list items => simp [asList, asItems_eq_ok_iff spelled h]
  | _ => simp [asList]

theorem asTexts_eq_ok_iff {texts : List Text} :
    asTexts key value = .ok texts ↔ value = .list (texts.map .text) := by
  have hitems : ∀ items : List Tree,
      List.Forall₂ (fun s x => x = Tree.text s) texts items ↔ items = texts.map .text := by
    intro items
    induction texts generalizing items with
    | nil => simp
    | cons s texts ih => cases items <;> simp [ih]
  rw [asTexts, asList_eq_ok_iff (fun s x => x = Tree.text s) fun _ _ _ => asText_eq_ok_iff]
  simp only [hitems, exists_eq_right]

/-- A path is read from what spells it. -/
theorem asPath_eq_ok_iff {raw : Option Tree} {path : FieldPath} :
    asPath key raw = .ok path ↔ FieldPath.SpelledBy path raw := by
  constructor
  · intro h
    unfold asPath at h
    split at h
    · cases h
      exact .missing
    · cases h
      exact .null
    · cases h
      exact .segment _
    · rw [asTexts_eq_ok_iff.1 h]
      exact .segments path
  · intro h
    cases h with
    | segments => exact asTexts_eq_ok_iff.2 rfl
    | _ => rfl

/-! ## Entries -/

variable {entries : Mapping} {name : Text}

theorem required_eq_ok_iff :
    required entries name key = .ok value ↔ Mapping.get? entries name = some value := by
  unfold required
  split <;> simp [*]

/-- An entry that may be missing is read, or its default stands in for it. -/
theorem entryOr_eq_ok_iff {β : Type} {reader : Text → Tree → Read β} {default b : β} :
    entryOr reader entries name key default = .ok b ↔
      (∃ value, Mapping.get? entries name = some value ∧ reader key value = .ok b) ∨
        (Mapping.get? entries name = none ∧ default = b) := by
  unfold entryOr
  split <;> simp [*]

end Config

end Winnow
