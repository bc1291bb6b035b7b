import Winnow.Proofs.Spec.Pipe

/-!
# Projections without a head

A projection by itself stands in the query without the selection of all items that would come before
it. The longer text drops the null items first and then projects, the shorter one projects the null
items, too; but a projection takes null from null, and drops it in the end.

* `staged_allItems`, `staged_projection` — the two stages, and what they compute.
* `search_projection`, `search_allItems_projection` — the search for the shorter and for the longer
  text.
* `projectItems_array` — what a projection takes from the items of an array.
* `search_headless` — the shorter text finds what the longer one does.
-/

namespace Winnow

open Winnow.Json (Document)
open Winnow.Expr.Item (ofDocument)

variable {p : Projection} {s : Spec}

/-! ## The stages -/

theorem pipeText_singleton (text : List CodePoint) : pipeText [text] = Text.ofList text := by
  rw [pipeText, List.intercalate_singleton]

section

variable [Limits]

/-- The selection of all items keeps those that are not null. -/
theorem staged_allItems : Staged [allItems] [fun v => .ok (Expr.projectItems id v)] :=
  ⟨[.project .current .current], .cons isStage_allItems .nil,
    .cons ((Expr.computes_project Expr.computes_current).mono (by decide)) .nil⟩

/-- A projection takes from every item, null or not. -/
theorem staged_projection (hp : p.paths ≠ []) :
    Staged [p.render] [fun v => .ok (Expr.projectItems p.takeItem v)] :=
  ⟨[p.tree], .cons (isStage_projection hp) .nil,
    .cons ((computes_projection p).mono (by decide)) .nil⟩

/-! ## The searches -/

/-- A search for a projection by itself. -/
theorem search_projection (hp : p.paths ≠ []) (v : Item) :
    Expr.search (Text.ofList p.render) v = .ok (Expr.projectItems p.takeItem v) := by
  rw [← pipeText_singleton, search_staged (staged_projection hp) (List.cons_ne_nil _ _) (by simp)]
  rfl

/-- A search for a projection after the selection of all items. -/
theorem search_allItems_projection (hp : p.paths ≠ []) (v : Item) :
    Expr.search ("[*] | " ++ Text.ofList p.render) v =
      .ok (Expr.projectItems p.takeItem (Expr.projectItems id v)) := by
  have htext : "[*] | " ++ Text.ofList p.render = pipeText ([allItems] ++ [p.render]) := by
    rw [pipeText_append (List.cons_ne_nil _ _) (List.cons_ne_nil _ _), pipeText_singleton,
      pipeText_singleton]
    rfl
  rw [htext, search_staged (staged_allItems.append (staged_projection hp)) (List.cons_ne_nil _ _)
    (by simp)]
  rfl

end

/-! ## The items of an array -/

/-- What a projection takes from the items of an array, the null ones among them. -/
theorem projectItems_array (p : Projection) (items : List Document) :
    Expr.projectItems p.takeItem (ofDocument (.array items)) =
      ofDocument (.array (p.project (Json.Value.dropNulls items))) := by
  rw [← projectItems_projectItems_id (takeItem_null p), projectItems_id_ofDocument]
  exact projectItems_ofDocument p fun x hx => by simpa using List.of_mem_filter hx

/-! ## The query -/

/-- The query of a projection by itself, for an array, is its stage without a head. -/
theorem query_of_projection (hfilter : s.filter = none) (hsort : s.sort = none)
    (hprojection : s.projection = some p) : s.query true = .ok (Text.ofList p.render) := by
  have hstages : s.stages true = .ok [p.render] := by
    rw [stages_eq, Spec.headText, hfilter, hsort, hprojection]
    rfl
  rw [Spec.query, hstages]
  exact congrArg Except.ok (pipeText_singleton p.render)

section

variable [Limits]

/-- **The head that is left out.** The query of a specification with nothing but a projection, for
an array, is the stage of the projection without a head. At every value it finds what the selection
of all items with the projection after it finds, and at the array itself what the specification
means there. -/
theorem search_headless {key : Text} {raw : Option Config.Tree}
    (hs : Config.readSpec key raw = .ok s) (hfilter : s.filter = none) (hsort : s.sort = none)
    (hprojection : s.projection = some p) (items : List Document) :
    ∃ query, Language.jmesPath.compile (ofDocument (.array items)) s = .ok query ∧
      query = Text.ofList p.render ∧
      (∀ v, Language.jmesPath.search query v =
        Language.jmesPath.search ("[*] | " ++ Text.ofList p.render) v) ∧
      Language.jmesPath.search query (ofDocument (.array items)) =
        .ok (ofDocument (s.meaning (.array items))) := by
  have hpaths := (Config.readSpec_valid hs).paths p hprojection
  have hmeaning : s.meaning (.array items) = .array (p.project (Json.Value.dropNulls items)) := by
    rw [Spec.meaning, Spec.arranged, Spec.kept, hfilter, hsort, hprojection]
  refine ⟨Text.ofList p.render, query_of_projection hfilter hsort hprojection, rfl, fun v => ?_, ?_⟩
  · change Expr.search _ v = Expr.search _ v
    rw [search_projection hpaths, search_allItems_projection hpaths,
      projectItems_projectItems_id (takeItem_null p)]
  · change Expr.search _ _ = _
    rw [search_projection hpaths, projectItems_array, hmeaning]

/-- A setting that asks for the name and the home of every item, with the item itself. -/
def homesSetting : Config.Tree :=
  .mapping [(.text "projection", .mapping [(.text "paths", .list
    [.text "name", .list [], .list [.text "home", .text "town"]])])]

/-- The projection that the setting spells out. -/
def homes : Projection := ⟨[["name"], [], ["home", "town"]]⟩

/-- An item that is null, one that is a number, and one with objects in it. -/
def settlers : List Document :=
  [.null, .number (.int 1),
    .object [("name", .text "Ann"), ("home", .object [("town", .text "Rye")])]]

end

theorem search_headless_settlers :
    letI := Limits.ordinary
    let text := "[*].\x7bname: name, \"@\": @, town: home.town\x7d"
    let plain := "[*] | [*].\x7bname: name, \"@\": @, town: home.town\x7d"
    let found : Document := .array [
      .object [("name", .null), ("@", .number (.int 1)), ("town", .null)],
      .object [("name", .text "Ann"), ("@", .object [("name", .text "Ann"),
        ("home", .object [("town", .text "Rye")])]), ("town", .text "Rye")]]
    Config.readSpec "query" (some homesSetting) = .ok { projection := some homes } ∧
      Language.jmesPath.compile (ofDocument (.array settlers)) { projection := some homes } =
        .ok text ∧
      Language.jmesPath.search text (ofDocument (.array settlers)) = .ok (ofDocument found) ∧
      Language.jmesPath.search plain (ofDocument (.array settlers)) = .ok (ofDocument found) := by
  let limits := Limits.ordinary
  intro text plain found
  have hs : Config.readSpec "query" (some homesSetting) = .ok { projection := some homes } := rfl
  have htext : Text.ofList homes.render = text := by decide +kernel
  obtain ⟨query, hquery, rfl, hsame, hfound⟩ := search_headless hs rfl rfl rfl settlers
  rw [htext] at hquery hsame hfound
  have hplain : Text.ofString plain = "[*] | " ++ Text.ofString text := by decide +kernel
  rw [hplain]
  exact ⟨hs, hquery, hfound, (hsame _).symm.trans hfound⟩

end Winnow
