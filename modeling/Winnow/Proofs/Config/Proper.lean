import Winnow.Config.Load
import Winnow.Proofs.Config.Lookup
import Winnow.Proofs.Outcome

/-!
# Trees in which no entry stands twice

A mapping is a list of entries, and nothing in its type keeps two of them from being under keys that
lead to one entry. Whatever is loaded is made by putting entries, and so has none twice.

* `Mapping.Distinct` — mappings in which every entry is found; `Mapping.ext` tells them by what is
  found.
* `Tree.IsProper` — trees of which this holds at every depth.
* `isProper_of_loadMapping` — what is loaded is proper.
-/

namespace Winnow.Config

namespace Mapping

variable {entries : Mapping} {key : Key} {value : Tree}

/-! ## Mappings -/

/-- No two entries are under keys that lead to one entry. -/
def Distinct (entries : Mapping) : Prop := entries.Pairwise fun a b => a.1.same b.1 = false

instance (entries : Mapping) : Decidable (Distinct entries) :=
  inferInstanceAs (Decidable (entries.Pairwise fun a b => a.1.same b.1 = false))

theorem distinct_nil : Distinct [] := List.Pairwise.nil

theorem distinct_cons_iff : Distinct ((key, value) :: entries) ↔
    find? entries key = none ∧ Distinct entries := by
  rw [Distinct, List.pairwise_cons, find?_eq_none_iff]
  simp only [Key.same_comm key]
  rfl

/-- The keys after a value was put: a new one comes last. -/
theorem keys_put (entries : Mapping) (key : Key) (value : Tree) :
    (put entries key value).map Prod.fst =
      entries.map Prod.fst ++ if find? entries key = none then [key] else [] := by
  induction entries with
  | nil => rfl
  | cons entry entries ih =>
      obtain ⟨k, v⟩ := entry
      rw [put, find?_cons]
      by_cases hsame : k.same key = true
      · rw [if_pos hsame, if_pos hsame]
        simp
      · rw [if_neg hsame, if_neg hsame, List.map_cons, ih, List.map_cons, List.cons_append]

theorem Distinct.put (h : Distinct entries) (key : Key) (value : Tree) :
    Distinct (put entries key value) := by
  induction entries with
  | nil => exact List.pairwise_singleton _ _
  | cons entry entries ih =>
      obtain ⟨k, v⟩ := entry
      obtain ⟨hnone, hrest⟩ := distinct_cons_iff.1 h
      rw [Mapping.put]
      split_ifs with hsame
      · exact distinct_cons_iff.2 ⟨hnone, hrest⟩
      · refine distinct_cons_iff.2 ⟨?_, ih hrest⟩
        rw [find?_put, if_neg (by rwa [Key.same_comm]), hnone]

theorem mem_put {entry : Key × Tree} (h : entry ∈ put entries key value) :
    entry ∈ entries ∨ entry.2 = value := by
  induction entries with
  | nil => exact .inr (congrArg Prod.snd (List.mem_singleton.1 h))
  | cons head entries ih =>
      obtain ⟨k, v⟩ := head
      rw [put] at h
      split_ifs at h with hsame
      · rcases List.mem_cons.1 h with rfl | h
        · exact .inr rfl
        · exact .inl (List.mem_cons_of_mem _ h)
      · rcases List.mem_cons.1 h with rfl | h
        · exact .inl List.mem_cons_self
        · exact (ih h).imp_left (List.mem_cons_of_mem _)

/-- Pairs that are put one after the other leave no entry twice. -/
theorem distinct_ofPairs (pairs : List (Key × Tree)) : Distinct (ofPairs pairs) := by
  induction pairs using List.reverseRecOn with
  | nil => exact distinct_nil
  | append_singleton pairs pair ih =>
      rw [ofPairs, List.foldl_append]
      exact ih.put pair.1 pair.2

/-- What stands in a mapping is the value of a pair that was put. -/
theorem exists_of_mem_ofPairs {pairs : List (Key × Tree)} {entry : Key × Tree}
    (h : entry ∈ ofPairs pairs) : ∃ pair ∈ pairs, pair.2 = entry.2 := by
  induction pairs using List.reverseRecOn with
  | nil => cases h
  | append_singleton pairs pair ih =>
      rw [ofPairs, List.foldl_append] at h
      rcases mem_put h with h | h
      · obtain ⟨pair', hpair, heq⟩ := ih h
        exact ⟨pair', List.mem_append_left _ hpair, heq⟩
      · exact ⟨pair, List.mem_append_right _ (List.mem_singleton_self pair), h.symm⟩

/-- An entry is found at its key. -/
theorem Distinct.find?_of_mem (h : Distinct entries) {entry : Key × Tree}
    (hentry : entry ∈ entries) : find? entries entry.1 = some entry.2 := by
  induction entries with
  | nil => cases hentry
  | cons head entries ih =>
      obtain ⟨hnone, hrest⟩ := distinct_cons_iff.1 h
      rw [find?_cons]
      rcases List.mem_cons.1 hentry with rfl | hentry
      · rw [if_pos (Key.same_refl _)]
      · have hother := find?_eq_none_iff.1 hnone entry hentry
        rw [Key.same_comm, hother, if_neg Bool.false_ne_true]
        exact ih hrest hentry

/-- What is found at a key stands under a key that leads there. -/
theorem exists_mem_of_find? (h : find? entries key = some value) :
    ∃ entry ∈ entries, entry.1.same key = true ∧ entry.2 = value := by
  obtain ⟨entry, hentry, rfl⟩ := Option.map_eq_some_iff.1 h
  exact ⟨entry, List.mem_of_find?_eq_some hentry, by simpa using List.find?_some hentry, rfl⟩

/-- **Mappings without double entries are told by their keys and what is found there.** -/
theorem ext {a b : Mapping} (ha : Distinct a) (hkeys : a.map Prod.fst = b.map Prod.fst)
    (hfind : ∀ key ∈ a.map Prod.fst, find? a key = find? b key) : a = b := by
  induction a generalizing b with
  | nil => exact (List.map_eq_nil_iff.1 hkeys.symm).symm
  | cons entry a ih =>
      obtain ⟨key, v⟩ := entry
      cases b with
      | nil => cases hkeys
      | cons entry' b =>
          obtain ⟨key', w⟩ := entry'
          obtain ⟨rfl, hrest⟩ := List.cons.inj hkeys
          obtain ⟨hnone, ha⟩ := distinct_cons_iff.1 ha
          have hv := hfind key List.mem_cons_self
          rw [find?_cons, find?_cons, if_pos (Key.same_refl key), if_pos (Key.same_refl key)] at hv
          obtain rfl := Option.some.inj hv
          congr 1
          refine ih ha hrest fun k hk => ?_
          have hne : ¬key.same k = true := by
            intro hsame
            obtain ⟨entry, hentry, rfl⟩ := List.mem_map.1 hk
            rw [find?_eq_none_iff] at hnone
            rw [Key.same_comm, hnone entry hentry] at hsame
            cases hsame
          have hfound := hfind k (List.mem_cons_of_mem _ hk)
          rwa [find?_cons, find?_cons, if_neg hne, if_neg hne] at hfound

end Mapping

/-! ## Trees -/

/-- No mapping in a tree has two entries under keys that lead to one. -/
inductive Tree.IsProper : Tree → Prop
  | null : IsProper .null
  | bool (b : Bool) : IsProper (.bool b)
  | number (n : Number) : IsProper (.number n)
  | text (s : Text) : IsProper (.text s)
  | moment (m : Yaml.Moment) : IsProper (.moment m)
  | list {items : List Tree} (h : ∀ item ∈ items, IsProper item) : IsProper (.list items)
  | mapping {entries : Mapping} (hentries : Mapping.Distinct entries)
      (h : ∀ entry ∈ entries, IsProper entry.2) : IsProper (.mapping entries)

namespace Tree

variable {entries : Mapping}

theorem isProper_mapping_iff :
    IsProper (.mapping entries) ↔ entries.Distinct ∧ ∀ entry ∈ entries, entry.2.IsProper := by
  refine ⟨fun h => ?_, fun ⟨hentries, h⟩ => .mapping hentries h⟩
  cases h with
  | mapping hentries h => exact ⟨hentries, h⟩

theorem IsProper.distinct (h : IsProper (.mapping entries)) : entries.Distinct :=
  (isProper_mapping_iff.1 h).1

/-- What is found in a proper mapping is proper. -/
theorem IsProper.find? (h : IsProper (.mapping entries)) {key : Key} {value : Tree}
    (hvalue : Mapping.find? entries key = some value) : value.IsProper := by
  obtain ⟨entry, hentry, -, rfl⟩ := Mapping.exists_mem_of_find? hvalue
  exact (isProper_mapping_iff.1 h).2 entry hentry

end Tree

/-! ## Loading -/

open Yaml (Node)

/-- All that names stand for is proper. -/
def Known.IsProper (known : Known) : Prop := ∀ entry ∈ known, entry.2.IsProper

theorem Known.IsProper.cons {known : Known} (h : known.IsProper) (name : Text) {tree : Tree}
    (htree : tree.IsProper) : Known.IsProper ((name, tree) :: known) :=
  List.forall_mem_cons.2 ⟨htree, h⟩

/-- Where names stand for what is proper, loading yields what meets a condition, and names stand for
what is proper again. -/
def Yields {α : Type} (x : Loading α) (p : α → Prop) : Prop :=
  ∀ known, Known.IsProper known → ∀ a later, x.run known = .ok (a, later) →
    p a ∧ Known.IsProper later

section

variable {α β : Type} {p : α → Prop} {q : β → Prop}

theorem yields_pure {a : α} (h : p a) : Yields (pure a) p := by
  intro known hknown a' later hrun
  obtain ⟨rfl, rfl⟩ := Prod.ext_iff.1 (Except.ok.inj hrun)
  exact ⟨h, hknown⟩

theorem Yields.bind {x : Loading α} {f : α → Loading β} (hx : Yields x p)
    (hf : ∀ a, p a → Yields (f a) q) : Yields (x >>= f) q := by
  intro known hknown b later hrun
  rw [StateT.run_bind] at hrun
  obtain ⟨⟨a, middle⟩, ha, hb⟩ := exists_of_bind_eq_ok hrun
  obtain ⟨hp, hmiddle⟩ := hx known hknown a middle ha
  exact hf a hp middle hmiddle b later hb

theorem yields_lift {x : Except Yaml.LoadError α} (h : ∀ a, x = .ok a → p a) :
    Yields (liftM x) p := by
  intro known hknown a later hrun
  obtain ⟨a', ha, heq⟩ := exists_of_bind_eq_ok hrun
  obtain ⟨rfl, rfl⟩ := Prod.ext_iff.1 (Except.ok.inj heq)
  exact ⟨h _ ha, hknown⟩

theorem yields_throw (e : Yaml.LoadError) : Yields (throw e) p := by
  intro known hknown a later hrun
  cases hrun

theorem yields_remember (name : Text) {tree : Tree} (h : tree.IsProper) :
    Yields (remember name tree) fun _ => True := by
  intro known hknown a later hrun
  obtain ⟨-, rfl⟩ := Prod.ext_iff.1 (Except.ok.inj hrun)
  exact ⟨trivial, hknown.cons name h⟩

theorem yields_standsFor (name : Text) : Yields (standsFor name) Tree.IsProper := by
  intro known hknown tree later hrun
  cases hlookup : known.lookup name with
  | none =>
      simp only [standsFor, StateT.run_bind, StateT.run_get, pure_bind, hlookup] at hrun
      cases hrun
  | some found =>
      simp only [standsFor, StateT.run_bind, StateT.run_get, pure_bind, hlookup] at hrun
      obtain ⟨rfl, rfl⟩ := Prod.ext_iff.1 (Except.ok.inj hrun)
      obtain ⟨before, after, rfl, -⟩ := List.lookup_eq_some_iff.1 hlookup
      exact ⟨hknown (name, found) (by simp), hknown⟩

/-- Following what is proper into itself yields what is proper. -/
theorem yields_follow (name : Text) {load : Loading Tree} (hload : Yields load Tree.IsProper)
    {start : Tree} (hstart : start.IsProper) (turns : ℕ) :
    Yields (follow name load start turns) Tree.IsProper := by
  induction turns with
  | zero => exact yields_pure hstart
  | succ turns ih =>
      intro known hknown tree later hrun
      obtain ⟨⟨inner, middle⟩, hinner, hlater⟩ := exists_of_bind_eq_ok hrun
      exact hload _ (hknown.cons name (ih known hknown inner middle hinner).1) tree later hlater

end

theorem isProper_tree (key : Key) : key.tree.IsProper := by
  cases key
  · exact .null
  · exact .bool _
  · exact .number _
  · exact .text _
  · exact .moment _

theorem isProper_startTree (node : Node) : (startTree node).IsProper := by
  cases node with
  | sequence items => exact .list (by simp)
  | mapping pairs => exact .mapping Mapping.distinct_nil (by simp)
  | _ => exact .null

theorem isProper_of_plainTree {s : Text} {tree : Tree} (h : plainTree s = .ok tree) :
    tree.IsProper := by
  obtain ⟨plain, -, h⟩ := exists_of_bind_eq_ok h
  cases plain <;> cases h
  · exact .null
  · exact .bool _
  · exact .number _
  · exact .moment _
  · exact .text _

theorem isProper_of_takenItems {items : List Tree} (hitems : ∀ item ∈ items, item.IsProper)
    {entries : List (Key × Tree)} (h : takenItems items = .ok entries) :
    ∀ entry ∈ entries, entry.2.IsProper := by
  induction items generalizing entries with
  | nil =>
      obtain rfl := Except.ok.inj h
      simp
  | cons item items ih =>
      obtain ⟨hitem, hrest⟩ := List.forall_mem_cons.1 hitems
      cases item with
      | mapping own =>
          obtain ⟨others, hothers, h⟩ := exists_of_bind_eq_ok h
          obtain rfl := Except.ok.inj h
          intro entry hentry
          exact (List.mem_append.1 hentry).elim (ih hrest hothers entry)
            ((Tree.isProper_mapping_iff.1 hitem).2 entry)
      | _ => cases h

/-- The entries that are taken over from a proper value are proper. -/
theorem isProper_of_takenEntries {tree : Tree} (htree : tree.IsProper)
    {entries : List (Key × Tree)} (h : takenEntries tree = .ok entries) :
    ∀ entry ∈ entries, entry.2.IsProper := by
  cases htree with
  | mapping hdistinct hentries =>
      obtain rfl := Except.ok.inj h
      exact hentries
  | list hitems => exact isProper_of_takenItems hitems h
  | _ => cases h

theorem yields_nodeKey : (node : Node) → Yields (nodeKey node) fun _ => True
  | .plain s => by
      rw [nodeKey]
      exact yields_lift fun _ _ => trivial
  | .text s => by
      rw [nodeKey]
      exact yields_pure trivial
  | .named name node => by
      rw [nodeKey]
      exact (yields_nodeKey node).bind fun key _ =>
        (yields_remember name (isProper_tree key)).bind fun _ _ => yields_pure trivial
  | .reference name => by
      rw [nodeKey]
      exact (yields_standsFor name).bind fun tree _ => yields_lift fun _ _ => trivial
  | .sequence _ => yields_throw _
  | .mapping _ => yields_throw _

mutual

/-- **A node is a proper tree.** -/
theorem yields_nodeTree (turns : ℕ) (node : Node) :
    Yields (nodeTree turns node) Tree.IsProper := by
  cases node with
  | plain s =>
      rw [nodeTree]
      exact yields_lift fun _ => isProper_of_plainTree
  | text s =>
      rw [nodeTree]
      exact yields_pure (.text s)
  | sequence items =>
      rw [nodeTree]
      exact (yields_nodeItems turns items).bind fun trees htrees => yields_pure (.list htrees)
  | mapping pairs =>
      rw [nodeTree]
      refine (yields_nodePairs turns pairs).bind fun parts hparts => yields_pure ?_
      refine .mapping (Mapping.distinct_ofPairs _) fun entry hentry => ?_
      obtain ⟨pair, hpair, heq⟩ := Mapping.exists_of_mem_ofPairs hentry
      rw [← heq]
      exact hparts pair hpair
  | named name node =>
      rw [nodeTree]
      refine (yields_follow name (yields_nodeTree turns node) (isProper_startTree node) _).bind
        fun tree htree => ?_
      exact (yields_remember name htree).bind fun _ _ => yields_pure htree
  | reference name =>
      rw [nodeTree]
      exact yields_standsFor name

theorem yields_nodeItems (turns : ℕ) (items : List Node) :
    Yields (nodeItems turns items) fun trees => ∀ tree ∈ trees, tree.IsProper := by
  cases items with
  | nil =>
      rw [nodeItems]
      exact yields_pure (by simp)
  | cons node items =>
      rw [nodeItems]
      refine (yields_nodeTree turns node).bind fun tree htree => ?_
      exact (yields_nodeItems turns items).bind fun trees htrees =>
        yields_pure (List.forall_mem_cons.2 ⟨htree, htrees⟩)

theorem yields_nodePairs (turns : ℕ) (pairs : List (Node × Node)) :
    Yields (nodePairs turns pairs) fun parts =>
      ∀ entry ∈ parts.1 ++ parts.2, entry.2.IsProper := by
  match pairs with
  | [] =>
      rw [nodePairs]
      exact yields_pure (by simp)
  | (key, value) :: pairs =>
      rw [nodePairs]
      split_ifs
      · refine (yields_nodeTree turns value).bind fun tree htree => ?_
        refine (yields_lift fun _ => isProper_of_takenEntries htree).bind fun entries hentries => ?_
        refine (yields_nodePairs turns pairs).bind fun parts hparts => yields_pure ?_
        intro entry hentry
        rw [List.append_assoc] at hentry
        exact (List.mem_append.1 hentry).elim (hentries entry) (hparts entry)
      · refine (yields_nodeKey key).bind fun k _ => ?_
        refine (yields_nodeTree turns value).bind fun tree htree => ?_
        refine (yields_nodePairs turns pairs).bind fun parts hparts => yields_pure ?_
        intro entry hentry
        rcases List.mem_append.1 hentry with hentry | hentry
        · exact hparts entry (List.mem_append_left _ hentry)
        · rcases List.mem_cons.1 hentry with rfl | hentry
          · exact htree
          · exact hparts entry (List.mem_append_right _ hentry)

end

/-- The tree of a text by its tokens. -/
theorem loadTree_of_tokens {levels turns : ℕ} {text : Text} {tokens : List Yaml.Token}
    {node : Node} (htokens : Yaml.tokens levels text.toList = tokens)
    (hnode : Node.ofTokens levels tokens = .ok (some node)) (hcheck : checkNode node = .ok ()) :
    loadTree levels turns text = (nodeTree turns node).run' [] := by
  rw [loadTree, htokens, hnode]
  dsimp only
  rw [hcheck]
  rfl

/-- The root of a proper tree is a proper mapping. -/
theorem isProper_of_root {tree : Tree} (h : tree.IsProper) {root : Mapping}
    (hroot : tree.root = .ok root) : Tree.IsProper (.mapping root) := by
  unfold Tree.root at hroot
  split_ifs at hroot
  · obtain rfl := Except.ok.inj hroot
    exact .mapping Mapping.distinct_nil (by simp)
  · split at hroot
    · obtain rfl := Except.ok.inj hroot
      exact h
    · cases hroot

/-- A reader whose trees are all proper. -/
def Loader.IsProper (loader : Loader) : Prop :=
  ∀ text tree, loader.load text = .ok tree → tree.IsProper

/-- **The reader of YAML texts** yields proper trees. -/
theorem isProper_yamlLoader (levels turns : ℕ) : (yamlLoader levels turns).IsProper := by
  intro text tree h
  have hload := eq_ok_of_mapError_eq_ok h
  unfold loadTree at hload
  split at hload
  · cases hload
  · obtain rfl := Except.ok.inj hload
    exact .null
  · obtain ⟨-, -, hnode⟩ := exists_of_bind_eq_ok hload
    obtain ⟨⟨tree', later⟩, hrun, heq⟩ := exists_of_map_eq_ok hnode
    obtain rfl : tree' = tree := heq
    exact (yields_nodeTree turns _ [] (by simp [Known.IsProper]) _ _ hrun).1

/-- A reader whose trees are all proper, and for which an empty text holds no tree. -/
structure Loader.IsLawful (loader : Loader) : Prop where
  proper : loader.IsProper
  empty : loader.load "" = .ok .null

theorem isLawful_yamlLoader (levels turns : ℕ) : (yamlLoader levels turns).IsLawful where
  proper := isProper_yamlLoader levels turns
  empty := rfl

/-- **What is loaded is proper** if the trees of the reader are. -/
theorem isProper_of_loadMapping [loader : Loader] (hloader : loader.IsProper) {text : Text}
    {root : Mapping} (h : loadMapping text = .ok root) : Tree.IsProper (.mapping root) := by
  obtain ⟨tree, htree, hroot⟩ := exists_of_bind_eq_ok h
  exact isProper_of_root (hloader text tree (eq_ok_of_mapError_eq_ok htree))
    (eq_ok_of_mapError_eq_ok hroot)

end Winnow.Config
