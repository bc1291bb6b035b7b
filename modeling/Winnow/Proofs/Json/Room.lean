import Winnow.Proofs.Json.Documents
import Winnow.Proofs.Json.Writable

/-!
# Reading where there is little room

Reading a text takes as much room as arrays and objects stand in each other in its value. With less
room it fails for want of room, and for nothing else.

* `Within` — readings with less room and with more, which differ only where the former lacks it.
* `within_readValue`, `within_readItems`, `within_readPairs` — the reader of values and of their
  parts.
* `exists_readL_tooDeep` — whole texts.
* `levels_written` — the levels of what is written of a document.
-/

namespace Winnow

namespace Json

/-- What a reading yields meets a condition, and a reading with more room yields the same or fails
in the same way; or the reading lacks room. -/
def Within {α : Type} (p : α → Prop) (less more : Except ReadError α) : Prop :=
  (less = more ∧ ∀ a, less = .ok a → p a) ∨ ∃ what, less = .error (.tooDeep what)

section

variable {α β : Type} {p : α → Prop} {q : β → Prop}

theorem within_ok {a : α} (h : p a) : Within p (.ok a) (.ok a) :=
  .inl ⟨rfl, fun _ heq => Except.ok.inj heq ▸ h⟩

theorem within_error (e : ReadError) : Within p (.error e) (.error e) :=
  .inl ⟨rfl, fun _ heq => by cases heq⟩

theorem Within.bind {less more : Except ReadError α} {f g : α → Except ReadError β}
    (h : Within p less more) (hnext : ∀ a, p a → Within q (f a) (g a)) :
    Within q (less >>= f) (more >>= g) := by
  rcases h with ⟨rfl, hp⟩ | ⟨what, rfl⟩
  · cases hless : less with
    | error e => exact within_error e
    | ok a => exact hnext a (hp a hless)
  · exact .inr ⟨what, rfl⟩

/-- Entering an array or an object leaves less room for what stands in it. -/
theorem within_enter {less more : ℕ} (hle : less ≤ more) (what : Nesting)
    {f g : ℕ → Except ReadError β} (hnext : ∀ inner outer, inner + 1 = less → inner ≤ outer →
      Within q (f inner) (g outer)) :
    Within q (enter less what >>= f) (enter more what >>= g) := by
  cases less with
  | zero => exact .inr ⟨what, rfl⟩
  | succ inner =>
      obtain ⟨outer, rfl⟩ := Nat.exists_eq_add_one_of_ne_zero (Nat.ne_zero_of_lt hle)
      exact hnext inner outer rfl (Nat.le_of_succ_le_succ hle)

end

/-- The values of pairs that are put one after the other are values of the pairs. -/
theorem entriesLevels_ofPairs_le {pairs : List (Text × Document)} {room : ℕ}
    (h : ∀ pair ∈ pairs, pair.2.levels ≤ room) :
    entriesLevels (Entries.ofPairs pairs) ≤ room := by
  refine entriesLevels_le_iff.2 fun entry hentry => ?_
  obtain ⟨pair, hpair, hvalue⟩ := Entries.exists_mem_of_mem_ofPairs hentry
  exact hvalue ▸ h pair hpair

mutual

/-- A value that is read has no more levels than there was room for, and with more room it is read
alike. -/
theorem within_readValue {less more : ℕ} (hle : less ≤ more) :
    (depth : ℕ) → (s : List CodePoint) →
      Within (fun r => r.1.levels ≤ less) (readValue depth less s) (readValue depth more s)
  | 0, _ => within_error _
  | depth + 1, s => by
      unfold readValue
      split
      · split
        · exact within_ok (Nat.zero_le _)
        · exact within_error _
      · refine within_enter hle _ fun inner outer hinner hrooms => ?_
        dsimp only
        split
        · exact within_ok (hinner ▸ Nat.le_add_left _ _)
        · refine (within_readItems hrooms depth _).bind ?_
          rintro ⟨items, rest⟩ hitems
          exact within_ok (hinner ▸ Nat.succ_le_succ hitems)
      · refine within_enter hle _ fun inner outer hinner hrooms => ?_
        dsimp only
        split
        · exact within_ok (hinner ▸ Nat.le_add_left _ _)
        · refine (within_readPairs hrooms depth _).bind ?_
          rintro ⟨pairs, rest⟩ hpairs
          exact within_ok (hinner ▸ Nat.succ_le_succ (entriesLevels_ofPairs_le hpairs))
      · exact within_ok (Nat.zero_le _)
      · exact within_ok (Nat.zero_le _)
      · exact within_ok (Nat.zero_le _)
      · cases readNumber s with
        | error e => exact within_error e
        | ok r => exact within_ok (Nat.zero_le _)

theorem within_readItems {less more : ℕ} (hle : less ≤ more) :
    (depth : ℕ) → (s : List CodePoint) →
      Within (fun r => itemsLevels r.1 ≤ less) (readItems depth less s) (readItems depth more s)
  | 0, _ => within_error _
  | depth + 1, s => by
      unfold readItems
      refine (within_readValue hle depth s).bind ?_
      rintro ⟨item, rest⟩ hitem
      dsimp only
      split
      · refine (within_readItems hle depth _).bind ?_
        rintro ⟨items, rest⟩ hitems
        exact within_ok (max_le hitem hitems)
      · exact within_ok (max_le hitem (Nat.zero_le _))
      · exact within_error _

theorem within_readPairs {less more : ℕ} (hle : less ≤ more) :
    (depth : ℕ) → (s : List CodePoint) →
      Within (fun r => ∀ pair ∈ r.1, pair.2.levels ≤ less) (readPairs depth less s)
        (readPairs depth more s)
  | 0, _ => within_error _
  | depth + 1, s => by
      unfold readPairs
      split
      · split
        · exact within_error _
        · split
          · refine (within_readValue hle depth _).bind ?_
            rintro ⟨value, rest⟩ hvalue
            dsimp only
            split
            · refine (within_readPairs hle depth _).bind ?_
              rintro ⟨pairs, rest⟩ hpairs
              exact within_ok (List.forall_mem_cons.2 ⟨hvalue, hpairs⟩)
            · exact within_ok (List.forall_mem_cons.2 ⟨hvalue, by simp⟩)
            · exact within_error _
          · exact within_error _
      · exact within_error _

end

theorem within_readL {less more : ℕ} (hle : less ≤ more) (s : List CodePoint) :
    Within (fun d => d.levels ≤ less) (readL less s) (readL more s) := by
  refine (within_readValue hle _ _).bind ?_
  rintro ⟨d, rest⟩ hd
  dsimp only
  split
  · exact within_ok hd
  · exact within_error _

/-- **A text is only read where there is room for the levels of its value.** Elsewhere reading fails
for want of room. -/
theorem exists_readL_tooDeep {s : List CodePoint} {d : Document} {less more : ℕ}
    (h : readL more s = .ok d) (hless : less < d.levels) :
    ∃ what, readL less s = .error (.tooDeep what) := by
  have hmore : d.levels ≤ more := by
    rcases within_readL (le_refl more) s with ⟨-, hlevels⟩ | ⟨what, hdeep⟩
    · exact hlevels d h
    · cases h.symm.trans hdeep
  rcases within_readL (hless.le.trans hmore) s with ⟨hsame, hlevels⟩ | hdeep
  · exact absurd (hlevels d (hsame.trans h)) (Nat.not_le_of_lt hless)
  · exact hdeep

/-! ## What is written -/

theorem itemsLevels_map {f : Document → Document} {items : List Document}
    (h : ∀ item ∈ items, (f item).levels = item.levels) :
    itemsLevels (items.map f) = itemsLevels items := by
  induction items with
  | nil => rfl
  | cons item items ih =>
      obtain ⟨hitem, hitems⟩ := List.forall_mem_cons.1 h
      rw [List.map_cons, itemsLevels, itemsLevels, hitem, ih hitems]

theorem entriesLevels_map {f : Document → Document} {entries : List (Text × Document)}
    (h : ∀ entry ∈ entries, (f entry.2).levels = entry.2.levels) :
    entriesLevels (entries.map fun entry => (entry.1, f entry.2)) = entriesLevels entries := by
  induction entries with
  | nil => rfl
  | cons entry entries ih =>
      obtain ⟨hentry, hentries⟩ := List.forall_mem_cons.1 h
      rw [List.map_cons, entriesLevels, entriesLevels, hentry, ih hentries]

/-- A document as its text tells it has the levels of the document. -/
theorem levels_written (d : Document) : d.written.levels = d.levels := by
  induction d using Value.inductionOn with
  | array items ih =>
      rw [Value.written, writtenItems_eq_map, Value.levels, Value.levels, itemsLevels_map ih]
  | object entries ih =>
      rw [Value.written, writtenEntries_eq_map, Value.levels, Value.levels, entriesLevels_map ih]
  | _ => rfl

end Json

end Winnow
