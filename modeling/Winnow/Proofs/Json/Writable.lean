import Mathlib
import Winnow.Limits
import Winnow.Proofs.Outcome

/-!
# Which values have a text

A value has a text unless something in it has none, or an array or an object of it stands too deep
in others. With every item on a line of its own the blanks must be counted, and there must be memory
for them, too.

* `Value.inductionOn` — induction over a value with all its parts.
* `Item.StandsIn` — what stands in a value, and inside how many arrays and objects.
* `Item.IsWordless`, `Item.IsNest` — values that no text stands for, and those that others stand in.
* `Item.Fits` — a value everything in which can be written; `exists_writeValue_iff`.
* `Item.IsTooMuch` — a value that the machine has no room for.
* `Item.Unwritable` — a value that cannot be written; `exists_write_error_iff`.
-/

namespace Winnow

namespace Json

/-- What holds of a value if it holds of its items, or of the values of its entries, holds of all
values. -/
@[elab_as_elim]
theorem Value.inductionOn {κ α : Type} {p : Value κ α → Prop} (v : Value κ α)
    (null : p .null) (bool : ∀ b, p (.bool b)) (number : ∀ n, p (.number n))
    (text : ∀ s, p (.text s))
    (array : ∀ items : List (Value κ α), (∀ item ∈ items, p item) → p (.array items))
    (object : ∀ entries : List (κ × Value κ α), (∀ entry ∈ entries, p entry.2) →
      p (.object entries))
    (reference : ∀ x, p (.reference x)) : p v :=
  @Value.rec κ α p (fun items => ∀ item ∈ items, p item)
    (fun entries => ∀ entry ∈ entries, p entry.2)
    (fun entry => p entry.2) null bool number text array object reference (by simp)
    (fun _ _ hitem hitems => List.forall_mem_cons.2 ⟨hitem, hitems⟩) (by simp)
    (fun _ _ hentry hentries => List.forall_mem_cons.2 ⟨hentry, hentries⟩) (fun _ _ h => h) v

end Json

/-! ## What stands in a value -/

namespace Expr.Item

open Json (Layout)

/-- `x` stands in a value inside `n` arrays and objects of it: it is the value itself or a key of an
object, or it stands in an item or under a key. -/
inductive StandsIn (x : Item) : ℕ → Item → Prop
  | self : StandsIn x 0 x
  | item {n : ℕ} {items : List Item} {item : Item} (hitem : item ∈ items) (h : StandsIn x n item) :
      StandsIn x (n + 1) (.array items)
  | key {entries : List (Key × Item)} {entry : Key × Item} (hentry : entry ∈ entries)
      (h : entry.1.item = x) : StandsIn x 1 (.object entries)
  | value {n : ℕ} {entries : List (Key × Item)} {entry : Key × Item} (hentry : entry ∈ entries)
      (h : StandsIn x n entry.2) : StandsIn x (n + 1) (.object entries)

/-- No text stands for a reference, and none for an integer of too many digits. -/
inductive IsWordless : Item → Prop
  | reference (r : Reference) : IsWordless (.reference r)
  | tooLong {n : ℤ} (h : Nat.pow 10 digitLimit ≤ n.natAbs) : IsWordless (.number (.int n))

/-- An integer of one digit has words. -/
theorem not_isWordless_digit {n : ℤ} (h : n.natAbs < 10) : ¬IsWordless (.number (.int n)) := by
  have hten : ∀ limit ≠ 0, 10 ≤ Nat.pow 10 limit := fun limit hlimit => Nat.le_self_pow hlimit 10
  rintro (_ | hlong)
  exact absurd ((hten digitLimit nofun).trans hlong) (not_le.2 h)

/-- Arrays and objects, which other values stand in. -/
inductive IsNest : Item → Prop
  | array (items : List Item) : IsNest (.array items)
  | object (entries : List (Key × Item)) : IsNest (.object entries)

/-- Everything in a value can be written, if the value stands in `level` arrays and objects: nothing
is without words, and no array and no object stands too deep. -/
def Fits (l : Layout Key Reference) (level : ℕ) (v : Item) : Prop :=
  ∀ x n, StandsIn x n v → ¬IsWordless x ∧ (IsNest x → l.enters (level + n) x = true)

section

variable {l : Layout Key Reference} {level : ℕ}

/-- In a value without parts there is only the value. -/
theorem fits_of_not_isNest {v : Item} (hnest : ¬IsNest v) (h : ¬IsWordless v) : Fits l level v := by
  intro x n hx
  cases hx with
  | self => exact ⟨h, fun hv => absurd hv hnest⟩
  | item _ _ => exact absurd (.array _) hnest
  | key _ _ => exact absurd (.object _) hnest
  | value _ _ => exact absurd (.object _) hnest

theorem fits_number_iff {n : Number} : Fits l level (.number n) ↔ ¬IsWordless (.number n) := by
  constructor
  · intro h
    exact (h _ _ .self).1
  · exact fits_of_not_isNest nofun

theorem fits_array_iff {items : List Item} :
    Fits l level (.array items) ↔
      l.enters level (.array items) = true ∧ ∀ item ∈ items, Fits l (level + 1) item := by
  constructor
  · intro h
    refine ⟨(h _ _ .self).2 (.array items), fun item hitem x n hx => ?_⟩
    have hdeep := h x (n + 1) (.item hitem hx)
    rwa [← Nat.add_assoc, Nat.add_right_comm] at hdeep
  · rintro ⟨hroom, h⟩ x n hx
    cases hx with
    | self => exact ⟨nofun, fun _ => hroom⟩
    | @item n _ item hitem hx =>
        have hdeep := h item hitem x n hx
        rwa [Nat.add_right_comm, Nat.add_assoc] at hdeep

/-- A key is no array and no object. -/
theorem not_isNest_item (key : Key) : ¬IsNest key.item := by
  cases key <;> exact nofun

theorem fits_object_iff {entries : List (Key × Item)} :
    Fits l level (.object entries) ↔ l.enters level (.object entries) = true ∧
      ∀ entry ∈ entries, ¬IsWordless entry.1.item ∧ Fits l (level + 1) entry.2 := by
  constructor
  · intro h
    refine ⟨(h _ _ .self).2 (.object entries),
      fun entry hentry => ⟨(h _ _ (.key hentry rfl)).1, ?_⟩⟩
    intro x n hx
    have hdeep := h x (n + 1) (.value hentry hx)
    rwa [← Nat.add_assoc, Nat.add_right_comm] at hdeep
  · rintro ⟨hroom, h⟩ x n hx
    cases hx with
    | self => exact ⟨nofun, fun _ => hroom⟩
    | @key _ entry hentry hx =>
        subst hx
        exact ⟨(h entry hentry).1, fun hnest => absurd hnest (not_isNest_item entry.1)⟩
    | @value n _ entry hentry hx =>
        have hdeep := (h entry hentry).2 x n hx
        rwa [Nat.add_right_comm, Nat.add_assoc] at hdeep

end

end Expr.Item

open Winnow.Expr (Key Reference)
open Winnow.Expr.Item

/-! ## Texts of the parts -/

/-- A number has a text unless it is an integer of too many digits. -/
theorem Number.exists_write_iff {n : Number} :
    (∃ text, n.write = .ok text) ↔ ¬IsWordless (.number n) := by
  cases n with
  | int n =>
      rw [Number.write]
      split_ifs with h
      · refine ⟨fun _ => ?_, fun _ => ⟨_, rfl⟩⟩
        rintro (_ | hlong)
        exact absurd h (not_lt.2 hlong)
      · refine ⟨?_, fun hn => absurd (.tooLong (not_lt.1 h)) hn⟩
        rintro ⟨text, htext⟩
        cases htext
  | float x => exact ⟨fun _ => nofun, fun _ => ⟨_, rfl⟩⟩
  | undefined origin => exact ⟨fun _ => nofun, fun _ => ⟨_, rfl⟩⟩

/-- A key has a text unless its value has none. -/
theorem Expr.Key.exists_keyText_iff {key : Key} :
    (∃ name, Json.WritableKey.keyText key = .ok name) ↔ ¬IsWordless key.item := by
  cases key with
  | number n => exact exists_mapError_ok_iff.trans Number.exists_write_iff
  | reference r =>
      refine ⟨?_, fun h => absurd (.reference r) h⟩
      rintro ⟨name, hname⟩
      cases hname
  | null => exact ⟨fun _ => nofun, fun _ => ⟨_, rfl⟩⟩
  | bool b => exact ⟨fun _ => nofun, fun _ => ⟨_, rfl⟩⟩
  | text s => exact ⟨fun _ => nofun, fun _ => ⟨_, rfl⟩⟩

namespace Json

section

variable {l : Layout Key Reference} {level : ℕ}

theorem Layout.exists_enter_iff {v : Item} :
    (∃ u, l.enter level v = .ok u) ↔ l.enters level v = true := by
  unfold enter
  split_ifs with h <;> simp [h]

theorem exists_writeKey_iff {key : Key} :
    (∃ name, writeKey l key = .ok name) ↔ ¬IsWordless key.item := by
  rw [writeKey, exists_bind_ok_iff, ← Key.exists_keyText_iff]
  exact exists_congr fun name => and_iff_left ⟨_, rfl⟩

/-- Items are written if each of them is. -/
theorem exists_writeItems_iff {items : List Item} :
    (∃ text, writeItems l level items = .ok text) ↔
      ∀ item ∈ items, ∃ text, writeValue l level item = .ok text := by
  induction items with
  | nil => simp [writeItems]
  | cons item items ih =>
      simp only [writeItems, exists_bind_ok_iff, List.forall_mem_cons, ← ih]
      constructor
      · rintro ⟨first, hfirst, others, hothers, -⟩
        exact ⟨⟨first, hfirst⟩, others, hothers⟩
      · rintro ⟨⟨first, hfirst⟩, others, hothers⟩
        exact ⟨first, hfirst, others, hothers, _, rfl⟩

/-- Entries are written if each key and each value is. -/
theorem exists_writeEntries_iff {entries : List (Key × Item)} :
    (∃ text, writeEntries l level entries = .ok text) ↔
      ∀ entry ∈ entries, ¬IsWordless entry.1.item ∧ ∃ text,
        writeValue l level entry.2 = .ok text := by
  induction entries with
  | nil => simp [writeEntries]
  | cons entry entries ih =>
      simp only [writeEntries, exists_bind_ok_iff, List.forall_mem_cons, ← ih,
        ← @exists_writeKey_iff l entry.1]
      constructor
      · rintro ⟨name, hname, first, hfirst, others, hothers, -⟩
        exact ⟨⟨⟨name, hname⟩, first, hfirst⟩, others, hothers⟩
      · rintro ⟨⟨⟨name, hname⟩, first, hfirst⟩, others, hothers⟩
        exact ⟨name, hname, first, hfirst, others, hothers, _, rfl⟩

/-- An array is written if there is room for it and each of its items is written. -/
theorem exists_writeValue_array_iff {items : List Item} :
    (∃ text, writeValue l level (.array items) = .ok text) ↔
      l.enters level (.array items) = true ∧ ∀ item ∈ items, ∃ text,
        writeValue l (level + 1) item = .ok text := by
  rw [← Layout.exists_enter_iff, ← exists_writeItems_iff]
  cases items with
  | nil =>
      simp only [writeValue, writeItems, exists_bind_ok_iff]
      constructor
      · rintro ⟨u, hu, -⟩
        exact ⟨⟨u, hu⟩, _, rfl⟩
      · rintro ⟨⟨u, hu⟩, -⟩
        exact ⟨u, hu, _, rfl⟩
  | cons item items =>
      simp only [writeValue, writeItems, exists_bind_ok_iff]
      constructor
      · rintro ⟨u, hu, first, hfirst, others, hothers, -⟩
        exact ⟨⟨u, hu⟩, first, hfirst, others, hothers, _, rfl⟩
      · rintro ⟨⟨u, hu⟩, first, hfirst, others, hothers, -⟩
        exact ⟨u, hu, first, hfirst, others, hothers, _, rfl⟩

/-- An object is written if there is room for it and each of its keys and values is written. -/
theorem exists_writeValue_object_iff {entries : List (Key × Item)} :
    (∃ text, writeValue l level (.object entries) = .ok text) ↔
      l.enters level (.object entries) = true ∧ ∀ entry ∈ entries,
        ¬IsWordless entry.1.item ∧ ∃ text, writeValue l (level + 1) entry.2 = .ok text := by
  rw [← Layout.exists_enter_iff, ← exists_writeEntries_iff]
  cases entries with
  | nil =>
      simp only [writeValue, writeEntries, exists_bind_ok_iff]
      constructor
      · rintro ⟨u, hu, -⟩
        exact ⟨⟨u, hu⟩, _, rfl⟩
      · rintro ⟨⟨u, hu⟩, -⟩
        exact ⟨u, hu, _, rfl⟩
  | cons entry entries =>
      simp only [writeValue, writeEntries, exists_bind_ok_iff]
      constructor
      · rintro ⟨u, hu, name, hname, first, hfirst, others, hothers, -⟩
        exact ⟨⟨u, hu⟩, name, hname, first, hfirst, others, hothers, _, rfl⟩
      · rintro ⟨⟨u, hu⟩, name, hname, first, hfirst, others, hothers, -⟩
        exact ⟨u, hu, name, hname, first, hfirst, others, hothers, _, rfl⟩

/-- **A value is written if everything in it can be.** -/
theorem exists_writeValue_iff {v : Item} :
    (∃ text, writeValue l level v = .ok text) ↔ Fits l level v := by
  induction v using Value.inductionOn generalizing level with
  | null => exact ⟨fun _ => fits_of_not_isNest nofun nofun, fun _ => ⟨_, rfl⟩⟩
  | bool b =>
      refine ⟨fun _ => fits_of_not_isNest nofun nofun, fun _ => ?_⟩
      cases b <;> exact ⟨_, rfl⟩
  | number n =>
      rw [writeValue, exists_mapError_ok_iff, Number.exists_write_iff, fits_number_iff]
  | text s => exact ⟨fun _ => fits_of_not_isNest nofun nofun, fun _ => ⟨_, rfl⟩⟩
  | array items ih =>
      rw [exists_writeValue_array_iff, fits_array_iff]
      exact and_congr_right fun _ => forall₂_congr fun item hitem => ih item hitem
  | object entries ih =>
      rw [exists_writeValue_object_iff, fits_object_iff]
      exact and_congr_right fun _ => forall₂_congr fun entry hentry =>
        and_congr_right fun _ => ih entry hentry
  | reference r =>
      refine ⟨?_, fun h => absurd (.reference r) (h _ _ .self).1⟩
      rintro ⟨text, htext⟩
      cases htext

/-! ## Whole texts -/

theorem Layout.exists_checkIndent_iff {width : ℕ} (h : l.indent = some width) :
    (∃ u, l.checkIndent = .ok u) ↔ width < countLimit := by
  simp only [checkIndent, h]
  split_ifs with hlarge
  · simp [not_lt.2 hlarge]
  · simp [not_le.1 hlarge]

theorem Layout.exists_checkMemory_iff {v : Item} :
    (∃ u, l.checkMemory v = .ok u) ↔ l.holds v = true := by
  unfold checkMemory
  split_ifs with h <;> simp [h]

end

section

variable [Limits] {site : Site} {width : ℕ} {v : Item}

/-- A value has a text if it is a text alone, or if everything in it can be written, its blanks can
be counted, and there is memory for its text. -/
theorem exists_write_iff :
    (∃ text, write (.indented site width) v = .ok text) ↔ (∃ s, v = .text s) ∨
      Fits (.indented site width) 0 v ∧ width < Layout.countLimit ∧
        Limits.holds site width v = true := by
  by_cases hv : ∃ s, v = .text s
  · obtain ⟨s, rfl⟩ := hv
    exact ⟨fun _ => .inl ⟨s, rfl⟩, fun _ => ⟨_, rfl⟩⟩
  · have hwrite : write (.indented site width) v = (do
        (Layout.indented site width).checkIndent
        (Layout.indented site width).checkMemory v
        return Text.ofList (← writeValue (.indented site width) 0 v)) := by
      cases v <;> first | rfl | exact absurd ⟨_, rfl⟩ hv
    have hmemory : (∃ u, (Layout.indented site width).checkMemory v = .ok u) ↔
        Limits.holds site width v = true := Layout.exists_checkMemory_iff
    have hindent : (∃ u, (Layout.indented site width).checkIndent = .ok u) ↔
        width < Layout.countLimit := Layout.exists_checkIndent_iff rfl
    rw [hwrite, or_iff_right hv, ← hindent, ← hmemory, ← exists_writeValue_iff]
    simp only [exists_bind_ok_iff]
    constructor
    · rintro ⟨u, hu, u', hu', text, htext, -⟩
      exact ⟨⟨text, htext⟩, ⟨u, hu⟩, u', hu'⟩
    · rintro ⟨⟨text, htext⟩, ⟨u, hu⟩, u', hu'⟩
      exact ⟨u, hu, u', hu', text, htext, _, rfl⟩

end

end Json

/-- The machine has no room to write a value with every item on a line of its own. For a text alone
there always is room. -/
inductive Expr.Item.IsTooMuch [Limits] (site : Site) (width : ℕ) (v : Item) : Prop
  /-- An array or an object in it stands too deep to be entered. -/
  | tooDeep {x : Item} {n : ℕ} (h : StandsIn x n v) (hx : IsNest x)
      (hn : Limits.enters site n x = false)
  /-- The blanks of a level are too many to be counted. -/
  | uncountable (hwidth : Json.Layout.countLimit ≤ width) (hv : ∀ s, v ≠ .text s)
  /-- There is no memory for its text. -/
  | noMemory (hholds : Limits.holds site width v = false) (hv : ∀ s, v ≠ .text s)

/-- A value that cannot be written with every item on a line of its own: something in it has no
words, or the machine has no room for it. -/
inductive Expr.Item.Unwritable [Limits] (site : Site) (width : ℕ) (v : Item) : Prop
  | wordless {x : Item} {n : ℕ} (h : StandsIn x n v) (hx : IsWordless x)
  | tooMuch (h : IsTooMuch site width v)

/-- A text alone holds nothing that cannot be written. -/
theorem Expr.Item.not_unwritable_text [Limits] {site : Site} {width : ℕ} (s : Text) :
    ¬Unwritable site width (.text s) := by
  rintro (⟨hx, hword⟩ | ⟨hx, hnest, -⟩ | ⟨-, hv⟩ | ⟨-, hv⟩)
  · cases hx
    cases hword
  · cases hx
    cases hnest
  · exact hv s rfl
  · exact hv s rfl

/-- **Writing fails on the unwritable values.** -/
theorem Json.exists_write_error_iff [Limits] {site : Site} {width : ℕ} {v : Item} :
    (∃ e, write (.indented site width) v = .error e) ↔ Unwritable site width v := by
  rw [exists_error_iff, exists_write_iff]
  constructor
  · intro h
    rw [not_or, not_exists] at h
    obtain ⟨hv, h⟩ := h
    by_contra hwritable
    refine h ⟨fun x n hx => ⟨fun hword => hwritable (.wordless hx hword), fun hnest => ?_⟩, ?_, ?_⟩
    · rw [Nat.zero_add]
      by_contra henters
      exact hwritable (.tooMuch (.tooDeep hx hnest (Bool.eq_false_iff.2 henters)))
    · exact not_le.1 fun hwidth => hwritable (.tooMuch (.uncountable hwidth hv))
    · by_contra hholds
      exact hwritable (.tooMuch (.noMemory (Bool.eq_false_iff.2 hholds) hv))
  · rintro h (⟨s, rfl⟩ | ⟨hfits, hwidth, hholds⟩)
    · exact not_unwritable_text s h
    · rcases h with ⟨hx, hword⟩ | ⟨hx, hnest, hn⟩ | ⟨hlarge, -⟩ | ⟨hnone, -⟩
      · exact (hfits _ _ hx).1 hword
      · have henters := (hfits _ _ hx).2 hnest
        rw [Nat.zero_add] at henters
        exact absurd henters (Bool.eq_false_iff.1 hn)
      · exact absurd hlarge (not_le.2 hwidth)
      · exact absurd hholds (Bool.eq_false_iff.1 hnone)

end Winnow
