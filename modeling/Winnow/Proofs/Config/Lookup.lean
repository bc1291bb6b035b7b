import Winnow.Proofs.Config.Keys
import Winnow.Proofs.Number.Characters
import Winnow.Proofs.Outcome

/-!
# Entries of a mapping

* `Key.same_text_iff`, `Key.text_same_iff` — a text leads to the entry under that text.
* `Mapping.set` — a mapping with a value at a key, or with nothing there.
* `find?_put`, `find?_remove`, `get?_set`, `find?_eq_none_iff`, `mem_keys_put` — what stands in a
  mapping.
* `Key.exists_text_of_shown` — the words that only a text is shown as.
* `Key.isAmong`, `Mapping.shownKeys_eq_ok_iff` — the names that keys are shown as.
-/

namespace Winnow.Config

/-! ## Keys -/

namespace Key

theorem same_text_iff {k : Key} {s : Text} : k.same (.text s) = true ↔ k = .text s := by
  have hsame : k.same (.text s) = (k == .text s) := by
    cases k <;> rfl
  rw [hsame, beq_iff_eq]

theorem text_same_iff {k : Key} {s : Text} : (Key.text s).same k = true ↔ k = .text s := by
  rw [same_comm, same_text_iff]

end Key

namespace Mapping

variable {entries : Mapping} {key : Key} {value : Tree} {name : Text}

theorem find?_cons (k : Key) (v : Tree) (entries : Mapping) (key : Key) :
    find? ((k, v) :: entries) key = if k.same key = true then some v else find? entries key := by
  by_cases h : k.same key = true <;> simp [find?, h]

theorem find?_eq_none_iff :
    find? entries key = none ↔ ∀ entry ∈ entries, entry.1.same key = false := by
  simp [find?]

/-! ## Changing an entry -/

/-- A mapping without the entries at a key. -/
def remove (entries : Mapping) (key : Key) : Mapping :=
  entries.filter fun entry => !entry.1.same key

/-- A mapping with a value at a key, or with nothing there. -/
def set (entries : Mapping) (key : Key) : Option Tree → Mapping
  | some value => put entries key value
  | none => remove entries key

/-- Keys of one entry find the same. -/
theorem find?_congr {j k : Key} (h : j.same k = true) (entries : Mapping) :
    find? entries j = find? entries k := by
  induction entries with
  | nil => rfl
  | cons entry entries ih => rw [find?_cons, find?_cons, Key.same_congr h, ih]

/-- A value is found at the key where it was put, and the others as before. -/
theorem find?_put (entries : Mapping) (key : Key) (value : Tree) (k : Key) :
    find? (put entries key value) k =
      if key.same k = true then some value else find? entries k := by
  induction entries with
  | nil => rw [put, find?_cons]
  | cons entry entries ih =>
      obtain ⟨j, v⟩ := entry
      rw [put]
      split_ifs with hj hkey hkey
      · rw [find?_cons, Key.same_congr_left hj, if_pos hkey]
      · rw [find?_cons, find?_cons, Key.same_congr_left hj, if_neg hkey, if_neg hkey]
      · rw [find?_cons, ih, if_pos hkey, ← Key.same_congr hkey, if_neg hj]
      · rw [find?_cons, find?_cons, ih, if_neg hkey]

theorem get?_put (entries : Mapping) (key : Key) (value : Tree) (name : Text) :
    get? (put entries key value) name =
      if key = .text name then some value else get? entries name := by
  rw [get?, find?_put]
  exact if_congr Key.same_text_iff rfl rfl

/-- Nothing is found at a key whose entries were removed, and the others as before. -/
theorem find?_remove (entries : Mapping) (key k : Key) :
    find? (remove entries key) k = if key.same k = true then none else find? entries k := by
  induction entries with
  | nil => exact (ite_self none).symm
  | cons entry entries ih =>
      obtain ⟨j, v⟩ := entry
      rw [remove, List.filter_cons]
      split_ifs with hkeep hkey hkey
      · have hj : ¬j.same k = true := by
          rw [← Key.same_congr hkey]
          simpa using hkeep
        rw [find?_cons, if_neg hj]
        exact ih.trans (if_pos hkey)
      · rw [find?_cons, find?_cons]
        exact congrArg _ (ih.trans (if_neg hkey))
      · exact ih.trans (if_pos hkey)
      · have hj : ¬j.same k = true := by
          rw [Bool.not_eq_true, Bool.not_eq_false'] at hkeep
          rwa [Key.same_congr_left hkeep]
        rw [find?_cons, if_neg hj]
        exact ih.trans (if_neg hkey)

theorem get?_remove (entries : Mapping) (key : Key) (name : Text) :
    get? (remove entries key) name = if key = .text name then none else get? entries name := by
  rw [get?, find?_remove]
  exact if_congr Key.same_text_iff rfl rfl

/-- A changed entry is found, and the others as before. -/
theorem get?_set (entries : Mapping) (key : Key) (new : Option Tree) (name : Text) :
    get? (set entries key new) name = if key = .text name then new else get? entries name := by
  cases new with
  | some value => exact get?_put entries key value name
  | none => exact get?_remove entries key name

/-! ## The keys of a mapping -/

/-- A changed mapping has no keys but those that were there, and the one that was put if it was not.
-/
theorem mem_keys_put {k : Key} :
    k ∈ (put entries key value).map Prod.fst ↔
      k ∈ entries.map Prod.fst ∨ k = key ∧ find? entries key = none := by
  induction entries with
  | nil => simp [put, find?]
  | cons entry entries ih =>
      obtain ⟨j, v⟩ := entry
      rw [put]
      split_ifs with hsame
      · simp [find?_cons, hsame]
      · rw [find?_cons, if_neg hsame, List.map_cons, List.map_cons, List.mem_cons,
          List.mem_cons, ih, or_assoc]

theorem mem_keys_of_mem_remove {k : Key} (h : k ∈ (remove entries key).map Prod.fst) :
    k ∈ entries.map Prod.fst :=
  (List.filter_sublist.map Prod.fst).subset h

end Mapping

/-! ## What keys are shown as -/

theorem isNumberText_shownFloat (x : Float) : IsNumberText (Key.shownFloat.write x) := by
  rw [FloatLayout.write]
  split
  · exact .marks (by decide)
  · exact .signed (.marks (by decide))
  · refine .signed ?_
    split_ifs
    · exact .digit rfl (.mark (by decide) (.digit rfl .nil))
    · exact isNumberText_writeDigits (IsDigits.decimal _) _

theorem not_mem_r_of_isNumberText {s : List CodePoint} (h : IsNumberText s) : .char 'r' ∉ s := by
  intro hr
  have hne : ∀ c ∈ s, c ≠ 'r' := by
    refine h.forall_mem ?_ (by simp [numberMarks])
    rintro c hc rfl
    exact absurd hc (by simp)
  exact hne _ hr rfl

theorem not_mem_r_padded (width n : ℕ) : .char 'r' ∉ (Text.padded width n).toList :=
  not_mem_r_of_isNumberText (.digits (Text.isDigits_padded width n))

theorem not_mem_r_shownZone (zone : Option ℤ) :
    .char 'r' ∉ ((zone.map Yaml.Moment.shownZone).getD "").toList := by
  cases zone with
  | none => simp
  | some minutes =>
      simp only [Option.map_some, Option.getD_some, Yaml.Moment.shownZone]
      split_ifs <;> simp [not_mem_r_padded]

theorem not_mem_r_shownMoment (m : Yaml.Moment) : .char 'r' ∉ m.shown.toList := by
  unfold Yaml.Moment.shown Yaml.Moment.shownClock
  cases m.clock with
  | none => simp [not_mem_r_padded]
  | some c =>
      dsimp only
      split_ifs <;> simp [not_mem_r_padded, not_mem_r_shownZone]

/-- A word with an `r` that is not `True` is shown for a text only. -/
theorem Key.exists_text_of_shown {key : Key} {word : Text} (h : key.shown = .ok word)
    (hr : .char 'r' ∈ word.toList) (htrue : word ≠ "True") : ∃ s, key = .text s := by
  cases key with
  | null =>
      obtain rfl := Except.ok.inj h
      simp at hr
  | bool b =>
      cases b with
      | false =>
          obtain rfl := Except.ok.inj h
          simp at hr
      | true => exact absurd (Except.ok.inj h).symm htrue
  | number n =>
      cases n with
      | int n =>
          rw [shown] at h
          obtain ⟨text, htext, rfl⟩ := exists_of_map_eq_ok h
          rw [Text.toList_ofList] at hr
          exact absurd hr (not_mem_r_of_isNumberText (isNumberText_numberWrite htext))
      | float x =>
          obtain rfl := Except.ok.inj h
          exact absurd hr (not_mem_r_of_isNumberText (isNumberText_shownFloat x))
      | undefined origin =>
          obtain rfl := Except.ok.inj h
          simp [shownFloat] at hr
  | text s => exact ⟨s, rfl⟩
  | moment m =>
      obtain rfl := Except.ok.inj h
      exact absurd hr (not_mem_r_shownMoment m)

/-- Whether a key is shown as one of some names. -/
def Key.isAmong (names : List Text) (key : Key) : Bool :=
  match key.shown with
  | .ok name => name ∈ names
  | .error _ => false

theorem Key.isAmong_iff {names : List Text} {key : Key} :
    key.isAmong names = true ↔ ∃ name ∈ names, key.shown = .ok name := by
  unfold isAmong
  cases key.shown <;> simp

theorem Key.isAmong_text {names : List Text} {s : Text} (h : s ∈ names) :
    (Key.text s).isAmong names = true :=
  isAmong_iff.2 ⟨s, h, rfl⟩

/-- The keys of a mapping are shown one by one. -/
theorem Mapping.shownKeys_eq_ok_iff {entries : Mapping} {names : List Text} :
    shownKeys entries = .ok names ↔
      List.Forall₂ (fun entry name => entry.1.shown = .ok name) entries names := by
  induction entries generalizing names with
  | nil =>
      rw [List.forall₂_nil_left_iff]
      exact ⟨fun h => (Except.ok.inj h).symm, fun h => h ▸ rfl⟩
  | cons entry entries ih =>
      simp only [shownKeys, List.mapM_cons, bind_eq_ok_iff, List.forall₂_cons_left_iff]
      constructor
      · rintro ⟨name, hname, others, hothers, h⟩
        exact ⟨name, others, hname, ih.1 hothers, (Except.ok.inj h).symm⟩
      · rintro ⟨name, others, hname, hothers, rfl⟩
        exact ⟨name, hname, others, ih.2 hothers, rfl⟩

theorem Mapping.exists_shown_of_mem {entries : Mapping} {names : List Text}
    (h : shownKeys entries = .ok names) {entry : Key × Tree} (hentry : entry ∈ entries) :
    ∃ name, entry.1.shown = .ok name := by
  have hshown := shownKeys_eq_ok_iff.1 h
  clear h
  induction hshown with
  | nil => cases hentry
  | cons hname _ ih =>
      rcases List.mem_cons.1 hentry with rfl | hentry
      · exact ⟨_, hname⟩
      · exact ih hentry

/-- If not all keys of a mapping are shown, one of them is not. -/
theorem Mapping.exists_of_shownKeys_error {entries : Mapping} {cause : TooLong}
    (h : shownKeys entries = .error cause) : ∃ entry ∈ entries, entry.1.shown = .error cause := by
  induction entries with
  | nil => cases h
  | cons entry entries ih =>
      rw [shownKeys, List.mapM_cons] at h
      cases hname : entry.1.shown with
      | error e =>
          rw [hname, error_bind] at h
          obtain rfl := Except.error.inj h
          exact ⟨entry, List.mem_cons_self, hname⟩
      | ok name =>
          rw [hname, ok_bind] at h
          cases hothers : shownKeys entries with
          | error e =>
              rw [← shownKeys, hothers, error_bind] at h
              obtain rfl := Except.error.inj h
              obtain ⟨other, hmem, hother⟩ := ih hothers
              exact ⟨other, List.mem_cons_of_mem _ hmem, hother⟩
          | ok others =>
              rw [← shownKeys, hothers] at h
              cases h

end Winnow.Config
