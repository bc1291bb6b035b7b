import Winnow.Proofs.Config.Schema

/-!
# A change at one place of a configuration

* `Changed` — a configuration with another value at one place.
* `mem_blames_entry`, `mem_blames_item` — one step: of a mapping or a list without faults, what is
  blamed after a change of one part is what the part is blamed for.
* `mem_blames_of_changed` — the same at any depth.
-/

namespace Winnow.Config

/-- Another value at one place and all else as it was. The place itself may be an entry that was or
is missing, but all that holds it is there, and the items of a list stay as many. -/
inductive Changed (new : Option Tree) : List Step → Option Tree → Option Tree → Prop
  | here (old : Option Tree) : Changed new [] old new
  | entry {place : List Step} {entries : Mapping} {key : Key} {after : Option Tree}
      (h : Changed new place (Mapping.find? entries key) after) :
      Changed new (.entry key :: place) (some (.mapping entries))
        (some (.mapping (Mapping.set entries key after)))
  | item {place : List Step} {items : List Tree} {i : Nat} {old after : Tree}
      (hold : items[i]? = some old) (h : Changed new place (some old) (some after)) :
      Changed new (.item i :: place) (some (.list items)) (some (.list (items.set i after)))

/-- A change within the value of an entry that is there. -/
theorem Changed.within {new : Option Tree} {place : List Step} {entries after : Mapping} {key : Key}
    {v w : Tree}
    (hv : Mapping.find? entries key = some v) (h : Changed new place (some v) (some w))
    (hafter : Mapping.put entries key w = after) :
    Changed new (.entry key :: place) (some (.mapping entries)) (some (.mapping after)) := by
  subst hafter
  exact .entry (hv ▸ h)

/-! ## Items -/

section

variable {blames : Text → Tree → List Blame} {key : Text} {b : Blame}

theorem mem_itemBlames {items : List Tree} {start : ℕ} :
    b ∈ itemBlames blames key start items ↔
      ∃ i x, items[i]? = some x ∧ b ∈ blames (itemKey key (start + i)) x := by
  induction items generalizing start with
  | nil => simp [itemBlames]
  | cons x items ih =>
      rw [itemBlames, List.mem_append, ih]
      constructor
      · rintro (h | ⟨i, y, hy, h⟩)
        · exact ⟨0, x, rfl, h⟩
        · exact ⟨i + 1, y, hy, by rwa [← Nat.add_assoc, Nat.add_right_comm]⟩
      · rintro ⟨i, y, hy, h⟩
        cases i with
        | zero => exact .inl (Option.some.inj hy ▸ h)
        | succ i => exact .inr ⟨i, y, hy, by rwa [← Nat.add_assoc, Nat.add_right_comm] at h⟩

/-- The faults of a list after a change of an item, if there were none. -/
theorem mem_itemBlames_set {items : List Tree} {start i : ℕ} (hi : i < items.length)
    (hold : itemBlames blames key start items = []) (x : Tree) :
    b ∈ itemBlames blames key start (items.set i x) ↔ b ∈ blames (itemKey key (start + i)) x := by
  rw [mem_itemBlames]
  constructor
  · rintro ⟨j, y, hy, h⟩
    by_cases hij : i = j
    · subst hij
      rw [List.getElem?_set_self hi] at hy
      rwa [Option.some.inj hy]
    · rw [List.getElem?_set_ne hij] at hy
      exact absurd (mem_itemBlames.2 ⟨j, y, hy, h⟩) (by simp [hold])
  · intro h
    exact ⟨i, x, List.getElem?_set_self hi, h⟩

end

/-! ## Entries -/

/-- An entry of one of the names is no entry of another name. -/
theorem Others.blames_set {names : List Text} {others : Others names} {name : Text}
    (hname : name ∈ names) {key : Text} {entries : Mapping} (hold : others.blames key entries = [])
    (after : Option Tree) : others.blames key (Mapping.set entries (.text name) after) = [] := by
  cases others with
  | ignored => rfl
  | refused h =>
      rw [blames_refused_eq_nil] at hold ⊢
      intro k hk
      cases after with
      | none => exact hold k (Mapping.mem_keys_of_mem_remove hk)
      | some value =>
          rcases Mapping.mem_keys_put.1 hk with hk | ⟨rfl, -⟩
          · exact hold k hk
          · exact Key.isAmong_text hname

/-- Where nothing is blamed, no entry of a refused name is found. -/
theorem Others.find?_eq_none {names : List Text}
    (h : ∀ key : Key, key.isAmong names = true → ∃ s, key = .text s) {k : Key}
    (hk : ∀ name ∈ names, k ≠ .text name) {entries : Mapping}
    (hold : ∀ k ∈ entries.map Prod.fst, k.isAmong names = true) :
    Mapping.find? entries k = none := by
  rw [Mapping.find?_eq_none_iff]
  intro entry hentry
  by_contra hsame
  have hmem := hold entry.1 (List.mem_map_of_mem hentry)
  obtain ⟨s, hs⟩ := h _ hmem
  rw [hs] at hsame hmem
  obtain ⟨name, hname, hshown⟩ := Key.isAmong_iff.1 hmem
  obtain rfl := Except.ok.inj hshown
  exact hk s hname (Key.text_same_iff.1 (by simpa using hsame))

/-- A key that is none of the names is not among them. -/
theorem Others.isAmong_eq_false {names : List Text}
    (h : ∀ key : Key, key.isAmong names = true → ∃ s, key = .text s) {k : Key}
    (hk : ∀ name ∈ names, k ≠ .text name) : k.isAmong names = false := by
  rw [← Bool.not_eq_true]
  intro hmem
  obtain ⟨s, rfl⟩ := h k hmem
  obtain ⟨name, hname, hshown⟩ := Key.isAmong_iff.1 hmem
  obtain rfl := Except.ok.inj hshown
  exact hk s hname rfl

/-- The schema of an entry that should not be there blames it whatever its value is. -/
theorem Others.blames_schema_refused {names : List Text}
    {h : ∀ key : Key, key.isAmong names = true → ∃ s, key = .text s} {k : Key}
    {outer key : Text} (value : Option Tree) :
    ((refused h).schema k).blames outer key value = (value.map fun _ => k.blame outer).toList := by
  cases hshown : k.shown with
  | ok name =>
      cases value <;>
        simp [schema, Key.blame, hshown, Schema.nothing, Schema.blames, Schema.blame?]
  | error cause =>
      cases value <;>
        simp [schema, Key.blame, hshown, Schema.nameless, Schema.blames, Schema.blame?]

/-- What is blamed for an entry of another name. -/
theorem Others.mem_blames_set {names : List Text} {others : Others names} {k : Key}
    (hk : ∀ name ∈ names, k ≠ .text name) {key : Text} {entries : Mapping}
    (hold : others.blames key entries = []) (after : Option Tree) {b : Blame} :
    b ∈ others.blames key (Mapping.set entries k after) ↔
      b ∈ (others.schema k).blames key (Step.key key (.entry k)) after := by
  cases others with
  | ignored =>
      rw [schema, Schema.blames_anything]
      rfl
  | refused h =>
      rw [blames_refused_eq_nil] at hold
      cases after with
      | none =>
          have hremoved : (refused h).blames key (Mapping.remove entries k) = [] :=
            blames_refused_eq_nil.2 fun j hj => hold j (Mapping.mem_keys_of_mem_remove hj)
          rw [Mapping.set, hremoved, blames_schema_refused]
          rfl
      | some value =>
          rw [mem_blames_refused, blames_schema_refused, Option.map_some, Option.toList_some,
            List.mem_singleton, eq_comm (a := b)]
          constructor
          · rintro ⟨j, hj, hother, hb⟩
            rcases Mapping.mem_keys_put.1 hj with hj | ⟨rfl, -⟩
            · rw [hold j hj] at hother
              cases hother
            · exact hb
          · intro hb
            have hput : k ∈ (Mapping.put entries k value).map Prod.fst :=
              Mapping.mem_keys_put.2 (.inr ⟨rfl, find?_eq_none h hk hold⟩)
            exact ⟨k, hput, isAmong_eq_false h hk, hb⟩

/-- Where nothing is blamed, nothing is blamed for an entry of another name. -/
theorem Others.blames_find? {names : List Text} {others : Others names} {k : Key}
    (hk : ∀ name ∈ names, k ≠ .text name) {key : Text} {entries : Mapping}
    (hold : others.blames key entries = []) :
    (others.schema k).blames key (Step.key key (.entry k)) (Mapping.find? entries k) = [] := by
  cases others with
  | ignored => exact Schema.blames_anything _
  | refused h =>
      rw [find?_eq_none h hk (blames_refused_eq_nil.1 hold), blames_schema_refused]
      rfl

/-! ## One step -/

section

variable {outer key : Text}

section

variable {names : List Text} {part : Text → Schema} {others : Others names} {entries : Mapping}
  (hold : (Schema.object names part others).blames outer key (some (.mapping entries)) = [])

include hold

/-- One step to an entry of a name that the schema knows. -/
theorem Schema.mem_blames_part {name : Text} (hname : name ∈ names) (after : Option Tree)
    {b : Blame} :
    b ∈ (object names part others).blames outer key
        (some (.mapping (Mapping.set entries (.text name) after))) ↔
      b ∈ (part name).blames key (Step.key key (.entry (.text name))) after := by
  simp only [blames, blame?, Option.toList_none, List.nil_append, List.append_eq_nil_iff,
    List.flatMap_eq_nil_iff] at hold
  obtain ⟨hothers, hparts⟩ := hold
  simp only [blames, blame?, Option.toList_none, List.nil_append, List.mem_append,
    List.mem_flatMap, Mapping.get?_set]
  rw [Others.blames_set hname hothers]
  constructor
  · rintro (h | ⟨name', hname', h⟩)
    · exact absurd h List.not_mem_nil
    · split_ifs at h with heq
      · obtain rfl := Key.text.inj heq
        exact h
      · exact absurd h (by simp [hparts name' hname'])
  · intro h
    exact .inr ⟨name, hname, by rwa [if_pos rfl]⟩

/-- One step to an entry of another name. -/
theorem Schema.mem_blames_other {k : Key} (hk : ∀ name ∈ names, k ≠ .text name)
    (after : Option Tree) {b : Blame} :
    b ∈ (object names part others).blames outer key
        (some (.mapping (Mapping.set entries k after))) ↔
      b ∈ (others.schema k).blames key (Step.key key (.entry k)) after := by
  simp only [blames, blame?, Option.toList_none, List.nil_append, List.append_eq_nil_iff,
    List.flatMap_eq_nil_iff] at hold
  obtain ⟨hothers, hparts⟩ := hold
  simp only [blames, blame?, Option.toList_none, List.nil_append, List.mem_append,
    List.mem_flatMap, Mapping.get?_set]
  rw [Others.mem_blames_set hk hothers]
  refine or_iff_left ?_
  rintro ⟨name, hname, h⟩
  rw [if_neg (hk name hname), hparts name hname] at h
  exact List.not_mem_nil h

end

/-- One step into a mapping. -/
theorem Schema.mem_blames_entry {s t : Schema} {k : Key} (hsub : s.sub? (.entry k) = some t)
    {entries : Mapping} (hold : s.blames outer key (some (.mapping entries)) = [])
    (after : Option Tree) {b : Blame} :
    b ∈ s.blames outer key (some (.mapping (Mapping.set entries k after))) ↔
      b ∈ t.blames key (Step.key key (.entry k)) after := by
  induction s with
  | leaf verdict own => cases hsub
  | list alone inhabited item => cases hsub
  | required s ih => exact ih hsub hold
  | nullable s ih => exact ih hsub hold
  | object names part others ih =>
      simp only [sub?] at hsub
      split at hsub
      · next name hfind =>
          obtain rfl := Option.some.inj hsub
          obtain rfl : k = .text name := by simpa using List.find?_some hfind
          exact mem_blames_part hold (List.mem_of_find?_eq_some hfind) after
      · next hfind =>
          obtain rfl := Option.some.inj hsub
          exact mem_blames_other hold (by simpa using List.find?_eq_none.1 hfind) after

/-- Of a mapping without faults no part has one. -/
theorem Schema.blames_entry {s t : Schema} {k : Key} (hsub : s.sub? (.entry k) = some t)
    {entries : Mapping} (hold : s.blames outer key (some (.mapping entries)) = []) :
    t.blames key (Step.key key (.entry k)) (Mapping.find? entries k) = [] := by
  induction s with
  | leaf verdict own => cases hsub
  | list alone inhabited item => cases hsub
  | required s ih => exact ih hsub hold
  | nullable s ih => exact ih hsub hold
  | object names part others ih =>
      simp only [blames, List.append_eq_nil_iff, List.flatMap_eq_nil_iff] at hold
      simp only [sub?] at hsub
      split at hsub
      · next name hfind =>
          obtain rfl := Option.some.inj hsub
          obtain rfl : k = .text name := by simpa using List.find?_some hfind
          exact hold.2.2 name (List.mem_of_find?_eq_some hfind)
      · next hfind =>
          obtain rfl := Option.some.inj hsub
          exact Others.blames_find? (by simpa using List.find?_eq_none.1 hfind) hold.2.1

/-- One step into a list. -/
theorem Schema.mem_blames_item {s t : Schema} {i : ℕ} (hsub : s.sub? (.item i) = some t)
    {items : List Tree} (hi : i < items.length)
    (hold : s.blames outer key (some (.list items)) = []) (after : Tree) {b : Blame} :
    b ∈ s.blames outer key (some (.list (items.set i after))) ↔
      b ∈ t.blames key (Step.key key (.item i)) (some after) := by
  induction s with
  | leaf verdict own => cases hsub
  | object names part others ih => cases hsub
  | required s ih => exact ih hsub hold
  | nullable s ih => exact ih hsub hold
  | list alone inhabited item ih =>
      obtain rfl := Option.some.inj hsub
      simp only [blames, List.append_eq_nil_iff] at hold
      have hempty : (items.set i after).isEmpty = false := by
        cases items <;> cases i <;> first | rfl | exact absurd hi (Nat.not_lt_zero _)
      simp only [blames, blame?, hempty, Bool.and_false, Bool.false_eq_true, if_false,
        Option.toList_none, List.nil_append]
      rw [mem_itemBlames_set hi hold.2, Nat.zero_add]
      rfl

/-- Of a list without faults no item has one. -/
theorem Schema.blames_item {s t : Schema} {i : ℕ} (hsub : s.sub? (.item i) = some t)
    {items : List Tree} {x : Tree} (hx : items[i]? = some x)
    (hold : s.blames outer key (some (.list items)) = []) :
    t.blames key (Step.key key (.item i)) (some x) = [] := by
  induction s with
  | leaf verdict own => cases hsub
  | object names part others ih => cases hsub
  | required s ih => exact ih hsub hold
  | nullable s ih => exact ih hsub hold
  | list alone inhabited item ih =>
      obtain rfl := Option.some.inj hsub
      simp only [blames, List.append_eq_nil_iff] at hold
      rw [List.eq_nil_iff_forall_not_mem]
      intro b hb
      have hmem : b ∈ itemBlames (fun k x => item.blames key k (some x)) key 0 items :=
        mem_itemBlames.2 ⟨i, x, hx, by rwa [Nat.zero_add]⟩
      rw [hold.2] at hmem
      exact List.not_mem_nil hmem

end

/-! ## Any depth -/

/-- The keys of a place and of what holds it, from the keys of a value on. -/
def keysFrom (outer key : Text) : List Step → Text × Text
  | [] => (outer, key)
  | step :: place => keysFrom key (Step.key key step) place

/-- **A change is judged at its place.** Where nothing is blamed, what is blamed after a change is
what the new value is blamed for, under the keys of its place. -/
theorem mem_blames_of_changed {new : Option Tree} {place : List Step} {old after : Option Tree}
    (h : Changed new place old after) {s t : Schema} (hat : s.at? place = some t) {outer key : Text}
    (hold : s.blames outer key old = []) {b : Blame} :
    b ∈ s.blames outer key after ↔
      b ∈ t.blames (keysFrom outer key place).1 (keysFrom outer key place).2 new := by
  induction h generalizing s outer key with
  | here old =>
      obtain rfl := Option.some.inj hat
      exact Iff.rfl
  | entry h ih =>
      obtain ⟨part, hsub, hat⟩ := Option.bind_eq_some_iff.1 hat
      rw [Schema.mem_blames_entry hsub hold]
      exact ih hat (Schema.blames_entry hsub hold)
  | item hx h ih =>
      obtain ⟨item, hsub, hat⟩ := Option.bind_eq_some_iff.1 hat
      obtain ⟨hi, -⟩ := List.getElem?_eq_some_iff.1 hx
      rw [Schema.mem_blames_item hsub hi hold]
      exact ih hat (Schema.blames_item hsub hx hold)

theorem keysFrom_eq (outer key : Text) (place : List Step) :
    keysFrom outer key place =
      (if place = [] then outer else place.dropLast.foldl Step.key key,
        place.foldl Step.key key) := by
  induction place generalizing outer key with
  | nil => rfl
  | cons step place ih =>
      rw [keysFrom, ih, if_neg (List.cons_ne_nil step place)]
      cases place <;> rfl

end Winnow.Config
