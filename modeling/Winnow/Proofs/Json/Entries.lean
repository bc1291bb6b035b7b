import Mathlib
import Winnow.Json.Value

/-!
# Entries that are put one after the other

Where a key is put more than once it keeps its first place and its last value.

* `put_of_notMem` — a value at a new key comes last.
* `keys_ofPairs`, `get?_ofPairs` — the keys and the values after all pairs were put.
* `nodup_keys_ofPairs` — no key stands there twice.
* `ofPairs_of_nodup`, `length_ofPairs_iff` — nothing is lost where the keys differ, and only there.
-/

namespace Winnow.Json.Entries

variable {κ α : Type} [DecidableEq κ]

/-- A value at a new key comes last. -/
theorem put_of_notMem {entries : Entries κ α} {key : κ} (h : key ∉ entries.map Prod.fst)
    (value : Value κ α) : put entries key value = entries ++ [(key, value)] := by
  induction entries with
  | nil => rfl
  | cons entry entries ih =>
      obtain ⟨key', value'⟩ := entry
      rw [List.map_cons, List.mem_cons, not_or] at h
      rw [put, if_neg (by simpa using Ne.symm h.1), ih h.2, List.cons_append]

/-- The last pair is put last. -/
theorem ofPairs_append (pairs : List (κ × Value κ α)) (pair : κ × Value κ α) :
    ofPairs (pairs ++ [pair]) = put (ofPairs pairs) pair.1 pair.2 := by
  rw [ofPairs, List.foldl_append]
  rfl

/-- **The keys** stand in the order in which they come first. -/
theorem keys_ofPairs (pairs : List (κ × Value κ α)) :
    (ofPairs pairs).map Prod.fst = (pairs.map Prod.fst).eraseDups := by
  induction pairs using List.reverseRecOn with
  | nil => rfl
  | append_singleton pairs pair ih =>
      rw [ofPairs_append, keys_put, ih, List.map_append, List.eraseDups_append]
      by_cases h : pair.1 ∈ pairs.map Prod.fst
      · rw [if_pos (List.mem_eraseDups.2 h)]
        simp [List.removeAll, h]
      · rw [if_neg (mt List.mem_eraseDups.1 h)]
        simp [List.removeAll, h, List.eraseDups_cons]

/-- **The value at a key** is the one that was put there last. -/
theorem get?_ofPairs (pairs : List (κ × Value κ α)) (key : κ) :
    get? (ofPairs pairs) key = get? pairs.reverse key := by
  induction pairs using List.reverseRecOn with
  | nil => rfl
  | append_singleton pairs pair ih =>
      rw [ofPairs_append, get?_put, ih, List.reverse_append, List.reverse_singleton,
        List.singleton_append, get?_cons]

/-- What is put adds no values but its own. -/
theorem mem_or_eq_of_mem_put {entries : Entries κ α} {key : κ} {value : Value κ α}
    {entry : κ × Value κ α} (h : entry ∈ put entries key value) :
    entry ∈ entries ∨ entry.2 = value := by
  induction entries with
  | nil => exact .inr (congrArg Prod.snd (List.mem_singleton.1 h))
  | cons first entries ih =>
      rw [put] at h
      split_ifs at h with hkey
      · rcases List.mem_cons.1 h with rfl | h
        · exact .inr rfl
        · exact .inl (List.mem_cons_of_mem _ h)
      · rcases List.mem_cons.1 h with rfl | h
        · exact .inl List.mem_cons_self
        · exact (ih h).imp_left (List.mem_cons_of_mem _)

/-- The values after all pairs were put are values of pairs. -/
theorem exists_mem_of_mem_ofPairs {pairs : List (κ × Value κ α)} {entry : κ × Value κ α}
    (h : entry ∈ ofPairs pairs) : ∃ pair ∈ pairs, pair.2 = entry.2 := by
  induction pairs using List.reverseRecOn with
  | nil => cases h
  | append_singleton pairs pair ih =>
      rw [ofPairs_append] at h
      rcases mem_or_eq_of_mem_put h with h | h
      · obtain ⟨pair', hpair, hvalue⟩ := ih h
        exact ⟨pair', List.mem_append_left _ hpair, hvalue⟩
      · exact ⟨pair, List.mem_append_right _ List.mem_cons_self, h.symm⟩

theorem nodup_keys_ofPairs (pairs : List (κ × Value κ α)) :
    ((ofPairs pairs).map Prod.fst).Nodup := by
  induction pairs using List.reverseRecOn with
  | nil => exact List.nodup_nil
  | append_singleton pairs pair ih =>
      rw [ofPairs_append, keys_put]
      split_ifs with h
      · exact ih
      · exact List.nodup_append.2 ⟨ih, List.nodup_singleton _, by
          rintro a ha b hb rfl
          exact h (List.mem_singleton.1 hb ▸ ha)⟩

theorem keys_ofPairs_sublist (pairs : List (κ × Value κ α)) :
    ((ofPairs pairs).map Prod.fst).Sublist (pairs.map Prod.fst) := by
  induction pairs using List.reverseRecOn with
  | nil => exact .slnil
  | append_singleton pairs pair ih =>
      rw [ofPairs_append, keys_put, List.map_append]
      split_ifs
      · exact ih.trans (List.sublist_append_left _ _)
      · exact ih.append_right _

/-- Pairs whose keys differ stay as they are. -/
theorem ofPairs_of_nodup {pairs : List (κ × Value κ α)} (h : (pairs.map Prod.fst).Nodup) :
    ofPairs pairs = pairs := by
  induction pairs using List.reverseRecOn with
  | nil => rfl
  | append_singleton pairs pair ih =>
      rw [List.map_append, List.map_singleton, List.nodup_append] at h
      have hnew : pair.1 ∉ pairs.map Prod.fst :=
        fun hmem => h.2.2 pair.1 hmem pair.1 (List.mem_singleton_self _) rfl
      rw [ofPairs_append, ih h.1, put_of_notMem hnew]

/-- **No pair is lost** exactly where the keys differ. -/
theorem length_ofPairs_iff {pairs : List (κ × Value κ α)} :
    (ofPairs pairs).length = pairs.length ↔ (pairs.map Prod.fst).Nodup := by
  constructor
  · intro h
    have hkeys := (keys_ofPairs_sublist pairs).eq_of_length (by simpa using h)
    rw [← hkeys]
    exact nodup_keys_ofPairs pairs
  · intro h
    rw [ofPairs_of_nodup h]

end Winnow.Json.Entries
