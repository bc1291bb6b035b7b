import Winnow.Config.Merge
import Winnow.Proofs.Config.Proper

/-!
# The laws of merging

* `mergeAt_cases` — what stands at a key after merging: the upper value, or a merged mapping.
* `find?_merge`, `keys_merge` — what is found in a merged mapping, and under which keys.
* `merge_laws` — the empty mapping is the unit of merging, and a mapping that was merged changes
  nothing when it is merged again.
-/

namespace Winnow.Config

open Mapping (find? put Distinct)

variable {lower upper : Mapping} {key : Key} {below : Option Tree} {value : Tree}

/-! ## One key -/

/-- What stands at a key after merging is the upper value, unless mappings stand there on both
sides. -/
theorem mergeAt_cases (key : Key) (below : Option Tree) (value : Tree) :
    mergeAt key below value = value ∨
      ∃ lower upper, below = some (.mapping lower) ∧ value = .mapping upper ∧ key ≠ wholeKey ∧
        mergeAt key below value = .mapping (merge lower upper) := by
  cases value with
  | mapping upper =>
      unfold mergeAt
      split
      · next lower =>
          split_ifs with hkey
          · exact .inl rfl
          · exact .inr ⟨lower, upper, rfl, rfl, hkey, rfl⟩
      · exact .inl rfl
  | _ => exact .inl rfl

/-- Mappings that stand at one key on both sides are merged. -/
theorem mergeAt_mapping (hkey : key ≠ wholeKey) (lower upper : Mapping) :
    mergeAt key (some (.mapping lower)) (.mapping upper) = .mapping (merge lower upper) := by
  rw [mergeAt]
  exact if_neg hkey

/-- Where nothing stood, the upper value stands. -/
theorem mergeAt_none (key : Key) (value : Tree) : mergeAt key none value = value := by
  rcases mergeAt_cases key none value with h | ⟨_, _, hbelow, -⟩
  · exact h
  · cases hbelow

/-- Keys of one entry are both the key of whole values, or neither is. -/
theorem mergeAt_congr {j k : Key} (h : j.same k = true) (below : Option Tree) (value : Tree) :
    mergeAt j below value = mergeAt k below value := by
  have hwhole : j = wholeKey ↔ k = wholeKey := by
    rw [wholeKey, ← Key.same_text_iff, ← Key.same_text_iff, Key.same_congr_left h]
  cases value with
  | mapping upper => simp only [mergeAt, hwhole]
  | _ => rfl

/-! ## All keys -/

theorem merge_nil (lower : Mapping) : merge lower [] = lower := by
  rw [merge]

theorem merge_cons (lower : Mapping) (key : Key) (value : Tree) (upper : Mapping) :
    merge lower ((key, value) :: upper) =
      merge (put lower key (mergeAt key (find? lower key) value)) upper := by
  rw [merge]

/-- **What is found in a merged mapping**: what the upper value makes of the lower one, and the
lower value where there is no upper one. -/
theorem find?_merge (h : Distinct upper) (lower : Mapping) (key : Key) :
    find? (merge lower upper) key =
      ((find? upper key).map (mergeAt key (find? lower key))).or (find? lower key) := by
  induction upper generalizing lower with
  | nil => rw [merge_nil]; rfl
  | cons entry upper ih =>
      obtain ⟨k, v⟩ := entry
      obtain ⟨hnone, hrest⟩ := Mapping.distinct_cons_iff.1 h
      rw [merge_cons, ih hrest, Mapping.find?_put, Mapping.find?_cons]
      by_cases hsame : k.same key = true
      · rw [← Mapping.find?_congr hsame upper, hnone, if_pos hsame, if_pos hsame,
          Mapping.find?_congr hsame lower, mergeAt_congr hsame]
        rfl
      · rw [if_neg hsame, if_neg hsame]

theorem find?_merge_of_some (h : Distinct upper) (hvalue : find? upper key = some value) :
    find? (merge lower upper) key = some (mergeAt key (find? lower key) value) := by
  rw [find?_merge h, hvalue]
  rfl

theorem find?_merge_of_none (h : Distinct upper) (hnone : find? upper key = none) :
    find? (merge lower upper) key = find? lower key := by
  rw [find?_merge h, hnone]
  rfl

/-- **The keys of a merged mapping**: those of the lower one, and then the new ones of the upper
one, each side in its order. -/
theorem keys_merge (h : Distinct upper) (lower : Mapping) :
    (merge lower upper).map Prod.fst =
      lower.map Prod.fst ++ (upper.map Prod.fst).filter fun key => (find? lower key).isNone := by
  induction upper generalizing lower with
  | nil => simp [merge_nil]
  | cons entry upper ih =>
      obtain ⟨k, v⟩ := entry
      obtain ⟨hnone, hrest⟩ := Mapping.distinct_cons_iff.1 h
      -- to the other keys it makes no difference that a value was put at this one
      have hothers : (upper.map Prod.fst).filter (fun key =>
          (find? (put lower k (mergeAt k (find? lower k) v)) key).isNone) =
            (upper.map Prod.fst).filter fun key => (find? lower key).isNone := by
        refine List.filter_congr fun key hkey => ?_
        obtain ⟨entry, hentry, rfl⟩ := List.mem_map.1 hkey
        have hne := Mapping.find?_eq_none_iff.1 hnone entry hentry
        rw [Mapping.find?_put, if_neg (by rw [Key.same_comm, hne]; exact Bool.false_ne_true)]
      rw [merge_cons, ih hrest, hothers, Mapping.keys_put, List.map_cons, List.filter_cons]
      cases find? lower k <;> simp

/-- Merging puts no entry twice. -/
theorem Mapping.Distinct.merge (h : Distinct lower) (upper : Mapping) :
    Distinct (Config.merge lower upper) := by
  induction upper generalizing lower with
  | nil => rwa [merge_nil]
  | cons entry upper ih =>
      rw [merge_cons]
      exact ih (h.put _ _)

/-! ## Laws -/

/-- The empty mapping is the unit of merging. -/
theorem merge_empty_left (h : Distinct upper) : merge [] upper = upper := by
  refine Mapping.ext (Mapping.distinct_nil.merge upper) ?_ fun key _ => ?_
  · rw [keys_merge h]
    exact List.filter_eq_self.2 fun _ _ => rfl
  · rw [find?_merge h]
    cases find? upper key with
    | none => rfl
    | some value => exact congrArg some (mergeAt_none key value)

/-- A mapping that brings no new keys and no new values changes nothing. -/
theorem merge_eq_self (hlower : Distinct lower) (hupper : Distinct upper)
    (h : ∀ key value, find? upper key = some value →
      find? lower key = some (mergeAt key (find? lower key) value)) :
    merge lower upper = lower := by
  have hfound : ∀ key ∈ upper.map Prod.fst, (find? lower key).isNone = false := by
    intro key hkey
    cases hvalue : find? upper key with
    | none =>
        obtain ⟨entry, hentry, rfl⟩ := List.mem_map.1 hkey
        have hne := Mapping.find?_eq_none_iff.1 hvalue entry hentry
        rw [Key.same_refl] at hne
        cases hne
    | some value =>
        rw [h key value hvalue]
        rfl
  have hkeys : (upper.map Prod.fst).filter (fun key => (find? lower key).isNone) = [] := by
    rw [List.filter_eq_nil_iff]
    intro key hkey
    rw [hfound key hkey]
    exact Bool.false_ne_true
  refine Mapping.ext (hlower.merge upper) ?_ fun key _ => ?_
  · rw [keys_merge hupper, hkeys, List.append_nil]
  · rw [find?_merge hupper]
    cases hvalue : find? upper key with
    | none => rfl
    | some value => exact (h key value hvalue).symm

/-- A value over itself is itself. -/
theorem mergeAt_self (h : value.IsProper) (key : Key) : mergeAt key (some value) value = value := by
  induction h generalizing key with
  | @mapping entries hentries _ ih =>
      rcases mergeAt_cases key (some (.mapping entries)) (.mapping entries) with
        hsame | ⟨_, _, hbelow, hvalue, -, hmerged⟩
      · exact hsame
      · cases hbelow
        cases hvalue
        rw [hmerged, merge_eq_self hentries hentries]
        intro k v hv
        obtain ⟨entry, hentry, -, rfl⟩ := Mapping.exists_mem_of_find? hv
        rw [hv, ih entry hentry k]
  | _ => rfl

/-- A value that was put over another changes nothing when it is put there again. -/
theorem mergeAt_mergeAt (h : value.IsProper) (key : Key) (hbelow : ∀ t ∈ below, t.IsProper) :
    mergeAt key (some (mergeAt key below value)) value = mergeAt key below value := by
  induction h generalizing key below with
  | @mapping upper hupper hvalues ih =>
      rcases mergeAt_cases key below (.mapping upper) with
        hsame | ⟨lower, _, rfl, hvalue, hkey, hmerged⟩
      · rw [hsame]
        exact mergeAt_self (.mapping hupper hvalues) key
      · cases hvalue
        have hlower : Tree.IsProper (.mapping lower) := hbelow _ rfl
        rw [hmerged, mergeAt_mapping hkey, merge_eq_self (hlower.distinct.merge upper) hupper]
        intro k v hv
        obtain ⟨entry, hentry, -, rfl⟩ := Mapping.exists_mem_of_find? hv
        rw [find?_merge_of_some hupper hv,
          ih entry hentry k fun t ht => hlower.find? (Option.mem_def.1 ht)]
  | _ => rfl

/-- A mapping merged with itself is itself. -/
theorem merge_self (h : Tree.IsProper (.mapping lower)) : merge lower lower = lower := by
  refine merge_eq_self h.distinct h.distinct fun key value hvalue => ?_
  rw [hvalue, mergeAt_self (h.find? hvalue)]

/-- A mapping that was merged changes nothing when it is merged again. -/
theorem merge_merge (hlower : Tree.IsProper (.mapping lower))
    (hupper : Tree.IsProper (.mapping upper)) :
    merge (merge lower upper) upper = merge lower upper := by
  refine merge_eq_self (hlower.distinct.merge upper) hupper.distinct fun key value hvalue => ?_
  rw [find?_merge_of_some hupper.distinct hvalue, mergeAt_mergeAt (hupper.find? hvalue)]
  exact fun t ht => hlower.find? (Option.mem_def.1 ht)

/-- **The laws of merging.** The empty mapping is its unit on both sides, every mapping merged with
itself is itself, and a mapping that was merged changes nothing when it is merged again; all of this
with the keys in their order. -/
theorem merge_laws (hlower : Tree.IsProper (.mapping lower))
    (hupper : Tree.IsProper (.mapping upper)) :
    merge lower [] = lower ∧ merge [] upper = upper ∧ merge lower lower = lower ∧
      merge (merge lower upper) upper = merge lower upper :=
  ⟨merge_nil lower, merge_empty_left hupper.distinct, merge_self hlower, merge_merge hlower hupper⟩

/-- A default configuration, with an entry under a number. -/
def defaultLayer : Mapping := [
  (.text "query", .mapping [
    (.text "data", .text "users.json"),
    (.text "spec", .mapping [(.text "filter", .mapping [(.text "relation", .text "<")])])]),
  (.text "log", .mapping [(.text "level", .text "INFO"), (.text "dir", .text "log")]),
  (.text "output", .mapping [(.text "indent", .number (.int 2))]),
  (.number (.int 1), .null)]

/-- A configuration to be put over it: a mapping for null, under a key of the same entry, null for a
mapping, another specification, and another value inside a mapping. -/
def ownLayer : Mapping := [
  (.bool true, .mapping [(.text "a", .null)]),
  (.text "output", .null),
  (.text "query", .mapping [
    (.text "spec", .mapping [(.text "sort", .null)]), (.text "language", .text "jmespath")]),
  (.text "log", .mapping [(.text "level", .text "DEBUG")])]

theorem isProper_defaultLayer : Tree.IsProper (.mapping defaultLayer) := by
  simp only [defaultLayer, Tree.isProper_mapping_iff, List.forall_mem_cons]
  exact ⟨by decide,
    ⟨by decide, .text _, ⟨by decide, ⟨by decide, .text _, by simp⟩, by simp⟩, by simp⟩,
    ⟨by decide, .text _, .text _, by simp⟩, ⟨by decide, .number _, by simp⟩, .null, by simp⟩

theorem isProper_ownLayer : Tree.IsProper (.mapping ownLayer) := by
  simp only [ownLayer, Tree.isProper_mapping_iff, List.forall_mem_cons]
  exact ⟨by decide, ⟨by decide, .null, by simp⟩, .null,
    ⟨by decide, ⟨by decide, .null, by simp⟩, .text _, by simp⟩, ⟨by decide, .text _, by simp⟩,
      by simp⟩

theorem merge_laws_layers :
    let merged : Mapping := [
      (.text "query", .mapping [
        (.text "data", .text "users.json"),
        (.text "spec", .mapping [(.text "sort", .null)]),
        (.text "language", .text "jmespath")]),
      (.text "log", .mapping [(.text "level", .text "DEBUG"), (.text "dir", .text "log")]),
      (.text "output", .null),
      (.number (.int 1), .mapping [(.text "a", .null)])]
    Tree.IsProper (.mapping defaultLayer) ∧ Tree.IsProper (.mapping ownLayer) ∧
      merge defaultLayer ownLayer = merged ∧ merge merged ownLayer = merged ∧
      merge defaultLayer defaultLayer = defaultLayer ∧ merge [] ownLayer = ownLayer := by
  intro merged
  obtain ⟨-, hempty, hself, hagain⟩ := merge_laws isProper_defaultLayer isProper_ownLayer
  have hmerged : merge defaultLayer ownLayer = merged := rfl
  rw [hmerged] at hagain
  exact ⟨isProper_defaultLayer, isProper_ownLayer, hmerged, hagain, hself, hempty⟩

end Winnow.Config
