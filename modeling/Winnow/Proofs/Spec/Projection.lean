import Winnow.Proofs.Json.Entries
import Winnow.Proofs.Spec.Run

/-!
# Projections to several paths

A projection to several paths makes an object of every item. The value of a path stands there under
the key of the path, its last segment, so two paths with one key share an entry.

* `Projection.entries` — the entries of such an object.
* `keys_entries`, `get?_entries` — its keys, and the value under each of them.
* `entries_of_nodup`, `length_entries_iff` — every path has an entry of its own if the keys differ,
  and only then.
* `exists_run_projection` — what a run of a projection yields.
* `run_projection` — both together.
-/

namespace Winnow

open Winnow.Json (Document Entries)
open Winnow.Json.Value (dropNulls)
open Winnow.Expr.Item (ofDocument)
open Winnow.Log (runLogged)

/-! ## One item -/

namespace Projection

variable (p : Projection) (x : Document)

/-- What a projection to several paths takes from an item. -/
def entries : Entries Text Empty :=
  Entries.ofPairs (p.paths.map fun path => (pathKey path, x.atPath path))

variable {p x}

theorem take_of_two_le (hmany : 2 ≤ p.paths.length) : p.take x = .object (p.entries x) := by
  unfold take entries
  split
  · next path hpath =>
      rw [hpath] at hmany
      simp at hmany
  · rfl

theorem map_fst_pairs (paths : List FieldPath) (x : Document) :
    (paths.map fun path => (pathKey path, x.atPath path)).map Prod.fst = paths.map pathKey := by
  rw [List.map_map]
  rfl

/-- The keys are those of the paths, in the order in which they come first. -/
theorem keys_entries : (p.entries x).map Prod.fst = (p.paths.map pathKey).eraseDups := by
  rw [entries, Entries.keys_ofPairs, map_fst_pairs]

/-- Under the key of a path stands the value at that path, if no later path has the same key. -/
theorem get?_entries {before after : List FieldPath} {path : FieldPath}
    (hpaths : p.paths = before ++ path :: after) (hlast : pathKey path ∉ after.map pathKey) :
    Entries.get? (p.entries x) (pathKey path) = some (x.atPath path) := by
  have hnone : List.lookup (pathKey path)
      (after.map fun path => (pathKey path, x.atPath path)).reverse = none := by
    rw [List.lookup_eq_none_iff]
    intro entry hentry
    obtain ⟨other, hother, rfl⟩ := List.mem_map.1 (List.mem_reverse.1 hentry)
    rw [bne_iff_ne]
    intro hkey
    exact hlast (List.mem_map.2 ⟨other, hother, hkey.symm⟩)
  rw [entries, Entries.get?_ofPairs, hpaths, List.map_append, List.map_cons, List.reverse_append,
    List.reverse_cons, Entries.get?, List.lookup_append, List.lookup_append, hnone]
  simp

/-- Paths whose keys differ have an entry each, in their order. -/
theorem entries_of_nodup (hkeys : (p.paths.map pathKey).Nodup) :
    p.entries x = p.paths.map fun path => (pathKey path, x.atPath path) :=
  Entries.ofPairs_of_nodup (by rwa [map_fst_pairs])

/-- There are as many entries as paths only if the keys differ. -/
theorem length_entries_iff :
    (p.entries x).length = p.paths.length ↔ (p.paths.map pathKey).Nodup := by
  rw [entries, ← map_fst_pairs p.paths x, ← Entries.length_ofPairs_iff, List.length_map]

end Projection

/-! ## All items -/

theorem dropNulls_eq_self {items : List Document} (h : ∀ x ∈ items, x.isNull = false) :
    dropNulls items = items :=
  List.filter_eq_self.2 fun x hx => by rw [h x hx]; rfl

/-- A projection to several paths takes an object from each object of an array. -/
theorem meaning_projection {p : Projection} (hmany : 2 ≤ p.paths.length) {items : List Document}
    (hitems : ∀ x ∈ items, ∃ entries, x = .object entries) :
    Spec.meaning { projection := some p } (.array items) =
      .array (items.map fun x => .object (p.entries x)) := by
  have hkept : dropNulls items = items := by
    refine dropNulls_eq_self fun x hx => ?_
    obtain ⟨entries, rfl⟩ := hitems x hx
    rfl
  have htaken : items.map p.take = items.map fun x => .object (p.entries x) :=
    List.map_congr_left fun x _ => Projection.take_of_two_le hmany
  change Json.Value.array (p.project (dropNulls items)) = _
  rw [hkept, Projection.project, htaken, dropNulls_eq_self]
  intro y hy
  obtain ⟨x, -, rfl⟩ := List.mem_map.1 hy
  rfl

section

variable [Limits]

/-- A run of a projection alone yields its meaning. -/
theorem exists_run_projection {key : Text} {raw : Option Config.Tree} {p : Projection}
    (hs : Config.readSpec key raw = .ok { projection := some p }) (items : List Document) :
    ∃ r, (runLogged (Service.run ⟨Language.jmesPath⟩ (ofDocument (.array items))
        { projection := some p })).2 = .ok r ∧
      r.value = ofDocument (Spec.meaning { projection := some p } (.array items)) := by
  rcases outcome_cases (d := .array items) (Config.readSpec_valid hs) rfl with
    ⟨⟨_, _, f, hf, _⟩, -⟩ | ⟨⟨_, _, _, o, ho, _⟩ | ⟨_, ho⟩, -⟩ | ⟨-, -, -, w, hrun, hmeaning⟩
  · cases hf
  · cases ho
  · exact absurd rfl ho
  · exact ⟨_, hrun, hmeaning fun _ _ o ho => nomatch ho⟩

/-- **A projection to several paths.** A run yields one object for each object of an array. Its keys
are those of the paths, each in the place of the first path that has it; under a key stands the
value at the last path that has it, null where there is none. So each path has an entry of its own
if the keys differ; else there are fewer entries than paths. -/
theorem run_projection {key : Text} {raw : Option Config.Tree} {p : Projection}
    (hs : Config.readSpec key raw = .ok { projection := some p }) (hmany : 2 ≤ p.paths.length)
    {items : List Document} (hitems : ∀ x ∈ items, ∃ entries, x = .object entries) :
    ∃ r, (runLogged (Service.run ⟨Language.jmesPath⟩ (ofDocument (.array items))
        { projection := some p })).2 = .ok r ∧
      r.value = ofDocument (.array (items.map fun x => .object (p.entries x))) ∧
      ∀ x ∈ items,
        (p.entries x).map Prod.fst = (p.paths.map pathKey).eraseDups ∧
        (∀ before path after, p.paths = before ++ path :: after →
          pathKey path ∉ after.map pathKey →
            Entries.get? (p.entries x) (pathKey path) = some (x.atPath path)) ∧
        ((p.paths.map pathKey).Nodup →
          p.entries x = p.paths.map fun path => (pathKey path, x.atPath path)) ∧
        ((p.entries x).length = p.paths.length ↔ (p.paths.map pathKey).Nodup) := by
  obtain ⟨r, hrun, hvalue⟩ := exists_run_projection hs items
  rw [meaning_projection hmany hitems] at hvalue
  exact ⟨r, hrun, hvalue, fun x _ => ⟨Projection.keys_entries,
    fun _ _ _ => Projection.get?_entries, Projection.entries_of_nodup,
    Projection.length_entries_iff⟩⟩

/-- A setting that asks for the names of two people. -/
def bothNamesSetting : Config.Tree :=
  .mapping [(.text "projection", .mapping [(.text "paths", .list
    [.list [.text "user", .text "name"], .list [.text "pet", .text "name"]])])]

/-- The projection that the setting spells out. -/
def bothNames : Projection := ⟨[["user", "name"], ["pet", "name"]]⟩

/-- Somebody with a pet. -/
def owner : Document :=
  .object [("user", .object [("name", .text "Bob")]), ("pet", .object [("name", .text "Rex")])]

end

theorem run_projection_names :
    letI := Limits.ordinary
    Config.readSpec "query" (some bothNamesSetting) = .ok { projection := some bothNames } ∧
      ∃ r, (runLogged (Service.run ⟨Language.jmesPath⟩ (ofDocument (.array [owner]))
          { projection := some bothNames })).2 = .ok r ∧
        r.value = ofDocument (.array [.object [("name", .text "Rex")]]) := by
  let limits := Limits.ordinary
  have hs : Config.readSpec "query" (some bothNamesSetting) =
      .ok { projection := some bothNames } := rfl
  have hobject : ∀ x ∈ [owner], ∃ entries, x = Json.Value.object entries := by
    rintro x (_ | ⟨_, ⟨⟩⟩)
    exact ⟨_, rfl⟩
  obtain ⟨r, hrun, hvalue, -⟩ := run_projection hs (by decide) hobject
  exact ⟨hs, r, hrun, hvalue⟩

/-- Two paths that differ, and one entry for both: the name of the pet stands in the place of the
name of its owner. -/
theorem exists_run_shared :
    letI := Limits.ordinary
    Config.readSpec "query" (some bothNamesSetting) = .ok { projection := some bothNames } ∧
      bothNames.paths.Nodup ∧ bothNames.paths.length = 2 ∧
      ∃ r, (runLogged (Service.run ⟨Language.jmesPath⟩ (ofDocument (.array [owner]))
          { projection := some bothNames })).2 = .ok r ∧
        r.value = .array [.object [(.text "name", .text "Rex")]] := by
  let limits := Limits.ordinary
  have hs : Config.readSpec "query" (some bothNamesSetting) =
      .ok { projection := some bothNames } := rfl
  obtain ⟨r, hrun, hvalue⟩ := exists_run_projection hs [owner]
  exact ⟨hs, by decide, rfl, r, hrun, hvalue⟩

end Winnow
