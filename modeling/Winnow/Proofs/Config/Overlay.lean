import Winnow.Proofs.Config.Merge

/-!
# Merging path by path

What stands at the end of a path of keys after one mapping was merged over another, said from what
stands there on either side.

* `Tree.at?` — what a path of keys leads to.
* `Tree.Reaches` — how far along a path something stands.
* `at?_merge_of_replaced`, `at?_merge_of_mappings`, `at?_merge_of_none` — what a path leads to after
  merging.
* `mergeFits_iff` — how much room merging needs.
* `Overlaid` — a mapping that is one laid over another; `overlaid_merge`.
-/

namespace Winnow.Config

open Mapping (find? Distinct)

/-! ## Paths of keys -/

namespace Tree

/-- What a path of keys leads to, from mapping to mapping. -/
def at? : Tree → List Key → Option Tree
  | tree, [] => some tree
  | .mapping entries, key :: path => (Mapping.find? entries key).bind fun tree => tree.at? path
  | _, _ :: _ => none

theorem at?_nil (tree : Tree) : tree.at? [] = some tree := by
  cases tree <;> rfl

theorem at?_cons (entries : Mapping) (key : Key) (path : List Key) :
    (mapping entries).at? (key :: path) = (Mapping.find? entries key).bind fun tree =>
      tree.at? path := rfl

/-- Only a mapping leads further. -/
theorem exists_of_at?_cons {tree t : Tree} {key : Key} {path : List Key}
    (h : tree.at? (key :: path) = some t) :
    ∃ entries next, tree = mapping entries ∧ Mapping.find? entries key = some next ∧
      next.at? path = some t := by
  cases tree with
  | mapping entries =>
      obtain ⟨next, hnext, ht⟩ := Option.bind_eq_some_iff.1 h
      exact ⟨entries, next, rfl, hnext, ht⟩
  | _ => cases h

theorem at?_append (tree : Tree) (p q : List Key) :
    tree.at? (p ++ q) = (tree.at? p).bind fun t => t.at? q := by
  induction p generalizing tree with
  | nil => rw [at?_nil]; rfl
  | cons key p ih =>
      cases tree with
      | mapping entries =>
          rw [List.cons_append, at?_cons, at?_cons]
          cases Mapping.find? entries key with
          | none => rfl
          | some next => exact ih next
      | _ => rfl

/-- Only a mapping leads to a mapping. -/
theorem exists_of_at?_mapping {tree : Tree} {path : List Key} {entries : Mapping}
    (h : tree.at? path = some (mapping entries)) : ∃ own, tree = mapping own := by
  cases path with
  | nil => exact ⟨entries, Option.some.inj ((at?_nil tree).symm.trans h)⟩
  | cons key path =>
      obtain ⟨own, _, rfl, -⟩ := exists_of_at?_cons h
      exact ⟨own, rfl⟩

/-- What a path leads to in a proper tree is proper. -/
theorem IsProper.at? {tree t : Tree} (h : tree.IsProper) {path : List Key}
    (ht : tree.at? path = some t) : t.IsProper := by
  induction path generalizing tree with
  | nil => rwa [← Option.some.inj ((at?_nil tree).symm.trans ht)]
  | cons key path ih =>
      obtain ⟨entries, next, rfl, hnext, ht⟩ := exists_of_at?_cons ht
      exact ih (h.find? hnext) ht

/-- A path leads to a mapping. -/
def MappingAt (tree : Tree) (path : List Key) : Prop :=
  ∃ entries, tree.at? path = some (mapping entries)

/-- Something stands at the end of a front of a path, and of no longer front. -/
structure Reaches (tree : Tree) (path front : List Key) : Prop where
  isFront : front <+: path
  stands : (tree.at? front).isSome
  longest : ∀ longer, longer <+: path → (tree.at? longer).isSome → longer <+: front

theorem exists_reaches (tree : Tree) (path : List Key) : ∃ front, tree.Reaches path front := by
  induction path generalizing tree with
  | nil => exact ⟨[], List.prefix_refl _, by simp [at?_nil], fun longer h _ => h⟩
  | cons key path ih =>
      cases hnext : tree.at? [key] with
      | none =>
          refine ⟨[], List.nil_prefix, by simp [at?_nil], fun longer hlonger hstands => ?_⟩
          rcases List.prefix_cons_iff.1 hlonger with rfl | ⟨rest, rfl, -⟩
          · exact List.nil_prefix
          · rw [← List.singleton_append, at?_append, hnext] at hstands
            cases hstands
      | some next =>
          have hat : ∀ rest, tree.at? (key :: rest) = next.at? rest := fun rest => by
            rw [← List.singleton_append, at?_append, hnext, Option.bind_some]
          obtain ⟨front, hfront, hstands, hlongest⟩ := ih next
          refine ⟨key :: front, (List.prefix_cons_inj key).2 hfront, by rwa [hat], ?_⟩
          intro longer hlonger hlonger'
          rcases List.prefix_cons_iff.1 hlonger with rfl | ⟨rest, rfl, hrest⟩
          · exact List.nil_prefix
          · rw [hat] at hlonger'
            exact (List.prefix_cons_inj key).2 (hlongest rest hrest hlonger')

end Tree

/-! ## Paths after merging -/

/-- Mappings are merged at the end of a path: there is one on either side, and no key on the way to
them is the key of whole values. -/
structure Merges (lower upper : Mapping) (path : List Key) : Prop where
  away : wholeKey ∉ path
  below : (Tree.mapping lower).MappingAt path
  above : (Tree.mapping upper).MappingAt path

section

variable {lower upper : Mapping}

/-- Below a key mappings are merged if there are mappings on both sides. -/
theorem merges_cons_iff {key : Key} {path : List Key} :
    Merges lower upper (key :: path) ↔ key ≠ wholeKey ∧ ∃ l u,
      find? lower key = some (.mapping l) ∧ find? upper key = some (.mapping u) ∧
        Merges l u path := by
  constructor
  · rintro ⟨haway, ⟨l', hl'⟩, u', hu'⟩
    rw [List.mem_cons, not_or] at haway
    obtain ⟨_, below, hlower, hl, hbelow⟩ := Tree.exists_of_at?_cons hl'
    obtain ⟨_, above, hupper, hu, habove⟩ := Tree.exists_of_at?_cons hu'
    cases hlower
    cases hupper
    obtain ⟨l, rfl⟩ := Tree.exists_of_at?_mapping hbelow
    obtain ⟨u, rfl⟩ := Tree.exists_of_at?_mapping habove
    exact ⟨Ne.symm haway.1, l, u, hl, hu, haway.2, ⟨l', hbelow⟩, u', habove⟩
  · rintro ⟨hkey, l, u, hl, hu, haway, ⟨l', hbelow⟩, u', habove⟩
    refine ⟨?_, ⟨l', ?_⟩, u', ?_⟩
    · rw [List.mem_cons, not_or]
      exact ⟨Ne.symm hkey, haway⟩
    · rw [Tree.at?_cons, hl, Option.bind_some, hbelow]
    · rw [Tree.at?_cons, hu, Option.bind_some, habove]

theorem mergeFits_succ_iff {room : ℕ} :
    mergeFits (room + 1) lower upper = true ↔ ∀ entry ∈ upper, ∀ l u,
      entry.1 ≠ wholeKey → find? lower entry.1 = some (.mapping l) → entry.2 = .mapping u →
        mergeFits room l u = true := by
  rw [mergeFits, List.all_eq_true]
  refine forall₂_congr fun entry _ => ?_
  obtain ⟨key, value⟩ := entry
  cases value with
  | mapping above =>
      cases hbelow : find? lower key with
      | none => simp
      | some below =>
          cases below with
          | mapping l => simp [or_iff_not_imp_left]
          | _ => simp
  | _ => simp

/-- **How much room merging needs**: a place for every mapping that is merged in another, on the way
to any of them. -/
theorem mergeFits_iff (h : Tree.IsProper (.mapping upper)) {room : ℕ} :
    mergeFits room lower upper = true ↔ ∀ path, Merges lower upper path → path.length < room := by
  induction room generalizing lower upper with
  | zero =>
      refine iff_of_false Bool.false_ne_true fun hshort => ?_
      exact absurd (hshort [] ⟨List.not_mem_nil, ⟨lower, rfl⟩, upper, rfl⟩) (Nat.lt_irrefl 0)
  | succ room ih =>
      rw [mergeFits_succ_iff]
      constructor
      · rintro hfits (_ | ⟨key, path⟩) hpath
        · exact Nat.succ_pos room
        · obtain ⟨hkey, l, u, hl, hu, hpath⟩ := merges_cons_iff.1 hpath
          obtain ⟨entry, hentry, hsame, hvalue⟩ := Mapping.exists_mem_of_find? hu
          have hwhole : entry.1 ≠ wholeKey := by
            intro hentry
            rw [hentry, wholeKey, Key.text_same_iff] at hsame
            exact hkey hsame
          have hinner := hfits entry hentry l u hwhole
            ((Mapping.find?_congr hsame lower).trans hl) hvalue
          exact Nat.succ_lt_succ ((ih (h.find? hu)).1 hinner path hpath)
      · intro hshort entry hentry l u hkey hl hu
        have hfound := h.distinct.find?_of_mem hentry
        rw [hu] at hfound
        refine (ih (h.find? hfound)).2 fun path hpath => ?_
        exact Nat.lt_of_succ_lt_succ
          (hshort (entry.1 :: path) (merges_cons_iff.2 ⟨hkey, l, u, hl, hfound, hpath⟩))

/-- Mappings that a path leads to on both sides are merged, away from whole values. -/
theorem at?_merge_of_mappings (h : Tree.IsProper (.mapping upper)) {path : List Key}
    (hpath : wholeKey ∉ path) {l u : Mapping}
    (hl : (Tree.mapping lower).at? path = some (.mapping l))
    (hu : (Tree.mapping upper).at? path = some (.mapping u)) :
    (Tree.mapping (merge lower upper)).at? path = some (.mapping (merge l u)) := by
  induction path generalizing lower upper with
  | nil =>
      cases hl
      cases hu
      rfl
  | cons key path ih =>
      rw [List.mem_cons, not_or] at hpath
      obtain ⟨_, below, hlower, hbelow, hl⟩ := Tree.exists_of_at?_cons hl
      obtain ⟨_, value, hupper, hvalue, hu⟩ := Tree.exists_of_at?_cons hu
      cases hlower
      cases hupper
      obtain ⟨l', rfl⟩ := Tree.exists_of_at?_mapping hl
      obtain ⟨u', rfl⟩ := Tree.exists_of_at?_mapping hu
      rw [Tree.at?_cons, find?_merge_of_some h.distinct hvalue, hbelow,
        mergeAt_mapping (Ne.symm hpath.1), Option.bind_some]
      exact ih (h.find? hvalue) hpath.2 hl hu

/-- **An upper value stands as a whole** where no mappings are merged. -/
theorem at?_merge_of_replaced (h : Tree.IsProper (.mapping upper)) {path : List Key} {value : Tree}
    (hvalue : (Tree.mapping upper).at? path = some value) (hpath : ¬Merges lower upper path) :
    (Tree.mapping (merge lower upper)).at? path = some value := by
  induction path generalizing lower upper with
  | nil => exact absurd ⟨List.not_mem_nil, ⟨lower, rfl⟩, ⟨upper, rfl⟩⟩ hpath
  | cons key path ih =>
      obtain ⟨_, next, hupper, hnext, hvalue⟩ := Tree.exists_of_at?_cons hvalue
      cases hupper
      rw [Tree.at?_cons, find?_merge_of_some h.distinct hnext, Option.bind_some]
      rcases mergeAt_cases key (find? lower key) next with
        hsame | ⟨l, u, hbelow, rfl, hkey, hmerged⟩
      · rw [hsame, hvalue]
      · -- mappings on both sides: the rest of the path decides
        rw [hmerged]
        refine ih (h.find? hnext) hvalue fun hmerges => hpath ⟨?_, ?_, ?_⟩
        · simpa [Ne.symm hkey] using hmerges.away
        · simpa [Tree.MappingAt, Tree.at?_cons, hbelow] using hmerges.below
        · simpa [Tree.MappingAt, Tree.at?_cons, hnext] using hmerges.above

/-- **What stands below stays** where nothing stands at the next key above, if mappings are merged
so far. -/
theorem at?_merge_of_none (h : Tree.IsProper (.mapping upper)) {front rest : List Key} {key : Key}
    (hfront : Merges lower upper front)
    (hnone : (Tree.mapping upper).at? (front ++ [key]) = none) :
    (Tree.mapping (merge lower upper)).at? (front ++ key :: rest) =
      (Tree.mapping lower).at? (front ++ key :: rest) := by
  obtain ⟨haway, ⟨l, hl⟩, u, hu⟩ := hfront
  have hkey : find? u key = none := by
    rw [Tree.at?_append, hu, Option.bind_some, Tree.at?_cons] at hnone
    cases hnext : find? u key with
    | none => rfl
    | some next =>
        rw [hnext, Option.bind_some, Tree.at?_nil] at hnone
        cases hnone
  rw [Tree.at?_append, Tree.at?_append, at?_merge_of_mappings h haway hl hu, hl, Option.bind_some,
    Option.bind_some, Tree.at?_cons, Tree.at?_cons, find?_merge_of_none (h.at? hu).distinct hkey]

/-- A path to nothing goes on after the last place at which something stands. -/
theorem Tree.Reaches.exists_next {tree : Tree} {path front : List Key} (h : tree.Reaches path front)
    (hnone : tree.at? path = none) :
    ∃ key rest, path = front ++ key :: rest ∧ tree.at? (front ++ [key]) = none := by
  obtain ⟨rest, rfl⟩ := h.isFront
  cases rest with
  | nil =>
      have hstands := h.stands
      rw [List.append_nil] at hnone
      rw [hnone] at hstands
      cases hstands
  | cons key rest =>
      refine ⟨key, rest, rfl, Option.not_isSome_iff_eq_none.1 fun hstands => ?_⟩
      have hlonger := (h.longest (front ++ [key]) ⟨rest, by simp⟩ hstands).length_le
      simp at hlonger

end

/-! ## One mapping over another -/

/-- A mapping is one laid over another, said for every path of keys. -/
structure Overlaid (lower upper merged : Mapping) : Prop where
  /-- What stands above stands as a whole, unless mappings are merged there. -/
  replaced : ∀ path value, (Tree.mapping upper).at? path = some value → ¬Merges lower upper path →
    (Tree.mapping merged).at? path = some value
  /-- Where nothing stands above, what stands below stands, if mappings are merged as far as
  anything stands above, and otherwise nothing stands. -/
  kept : ∀ path, (Tree.mapping upper).at? path = none →
    ∃ front, (Tree.mapping upper).Reaches path front ∧
      (Merges lower upper front →
        (Tree.mapping merged).at? path = (Tree.mapping lower).at? path) ∧
      (¬Merges lower upper front → (Tree.mapping merged).at? path = none)
  /-- In a mapping that is merged from both sides the keys below come first, and then the new ones
  above, each side in its order. -/
  keys : ∀ path l u, wholeKey ∉ path → (Tree.mapping lower).at? path = some (.mapping l) →
    (Tree.mapping upper).at? path = some (.mapping u) →
    ∃ m, (Tree.mapping merged).at? path = some (.mapping m) ∧ m.map Prod.fst =
      l.map Prod.fst ++ (u.map Prod.fst).filter fun key => (find? l key).isNone
  /-- A whole value is one of the two, and no mixture. -/
  whole : ∀ path value, (Tree.mapping merged).at? (path ++ [wholeKey]) = some value →
    (Tree.mapping upper).at? (path ++ [wholeKey]) = some value ∨
      (Tree.mapping lower).at? (path ++ [wholeKey]) = some value

section

variable {lower upper : Mapping}

/-- Where nothing stands above, the last place on the way at which something does decides. -/
theorem exists_at?_merge_of_none (lower : Mapping) (h : Tree.IsProper (.mapping upper))
    {path : List Key} (hnone : (Tree.mapping upper).at? path = none) :
    ∃ front, (Tree.mapping upper).Reaches path front ∧
      (Merges lower upper front →
        (Tree.mapping (merge lower upper)).at? path = (Tree.mapping lower).at? path) ∧
      (¬Merges lower upper front → (Tree.mapping (merge lower upper)).at? path = none) := by
  obtain ⟨front, hfront⟩ := (Tree.mapping upper).exists_reaches path
  obtain ⟨key, rest, rfl, hnext⟩ := hfront.exists_next hnone
  refine ⟨front, hfront, fun hmerges => at?_merge_of_none h hmerges hnext, fun hreplaced => ?_⟩
  obtain ⟨value, hvalue⟩ := Option.isSome_iff_exists.1 hfront.stands
  rw [Tree.at?_append, hvalue] at hnone
  rw [Tree.at?_append, at?_merge_of_replaced h hvalue hreplaced, hnone]

/-- At the key of whole values nothing is mixed. -/
theorem at?_merge_whole (h : Tree.IsProper (.mapping upper)) {path : List Key} {value : Tree}
    (hvalue : (Tree.mapping (merge lower upper)).at? (path ++ [wholeKey]) = some value) :
    (Tree.mapping upper).at? (path ++ [wholeKey]) = some value ∨
      (Tree.mapping lower).at? (path ++ [wholeKey]) = some value := by
  cases hupper : (Tree.mapping upper).at? (path ++ [wholeKey]) with
  | some above =>
      have hwhole : ¬Merges lower upper (path ++ [wholeKey]) := fun hmerges =>
        hmerges.away (List.mem_append_right path (List.mem_singleton_self wholeKey))
      rw [at?_merge_of_replaced h hupper hwhole] at hvalue
      exact .inl hvalue
  | none =>
      obtain ⟨front, -, hsame, hgone⟩ := exists_at?_merge_of_none lower h hupper
      by_cases hmerges : Merges lower upper front
      · rw [hsame hmerges] at hvalue
        exact .inr hvalue
      · rw [hgone hmerges] at hvalue
        cases hvalue

/-- **Merging lays one mapping over another**, at every depth: what stands above replaces what
stands below, nothing that the upper mapping does not touch changes, and a whole value is never a
mixture. -/
theorem overlaid_merge (h : Tree.IsProper (.mapping upper)) :
    Overlaid lower upper (merge lower upper) where
  replaced _ _ hvalue hpath := at?_merge_of_replaced h hvalue hpath
  kept _ hnone := exists_at?_merge_of_none lower h hnone
  keys _ l _ hpath hl hu :=
    ⟨_, at?_merge_of_mappings h hpath hl hu, keys_merge (h.at? hu).distinct l⟩
  whole _ _ hvalue := at?_merge_whole h hvalue

/-- The specification is the upper one as a whole, what is beside it stays, and so does what is
beside the level of the log. -/
theorem overlaid_merge_layers :
    let merged := Tree.mapping (merge defaultLayer ownLayer)
    Tree.IsProper (.mapping ownLayer) ∧
      Overlaid defaultLayer ownLayer (merge defaultLayer ownLayer) ∧
      merged.at? [.text "query", .text "spec"] = some (.mapping [(.text "sort", .null)]) ∧
      merged.at? [.text "query", .text "data"] = some (.text "users.json") ∧
      merged.at? [.text "log", .text "dir"] = some (.text "log") ∧
      merged.at? [.text "output", .text "indent"] = none :=
  ⟨isProper_ownLayer, overlaid_merge isProper_ownLayer, rfl, rfl, rfl, rfl⟩

end

end Winnow.Config
