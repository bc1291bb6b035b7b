import Winnow.Language
import Winnow.Proofs.Config.ReadSpec
import Winnow.Proofs.Spec.Stages

/-!
# The expression of a specification

A specification names an expression: the pipe of its stages. The query text that it is compiled to
is read as that expression, whatever names and values stand in it.

* `Filter.tree?`, `SortKey.tree`, `Projection.tree` — the stages.
* `Spec.trees?`, `Spec.tree?` — all stages, and the pipe of them.
* `parseL_intercalate` — stages with pipe marks between them are read as the pipe of the stages.
* `parse_compile` — the query text of a specification is read as its expression.
-/

namespace Winnow

open Winnow.Expr (Token tokens chain)

/-! ## Expressions of stages -/

section

variable [Limits]

/-- The comparison that a relation names. -/
def Comparison.ofMark? (mark : Text) : Option Comparison :=
  [.eq, .ne, .lt, .le, .gt, .ge].find? fun c => c.mark == mark

/-- The expression of a filter: a filter projection on the value itself, whose condition compares
the chain of the path with one literal. A text stands for the scalar that it spells. -/
def Filter.tree? (f : Filter) : Option Expr := do
  let c ← Comparison.ofMark? f.relation
  let operand ← f.value.operand.toOption
  return .select .current (.compare c (chain f.path) (.literal operand.written)) .current

/-- The expression at the head of a query: the filter, else all items of an array, else the value
itself. -/
def Spec.head? (isArray : Bool) (s : Spec) : Option Expr :=
  match s.filter with
  | some f => f.tree?
  | none => some (if isArray then .project .current .current else .current)

/-- The expressions of all stages in their order. The head stands for nothing where a projection of
all items follows it. -/
def Spec.trees? (isArray : Bool) (s : Spec) : Option (List Expr) := do
  let head ← s.head? isArray
  let stages := head :: (s.sort.map SortKey.tree).toList
  return match s.projection with
    | none => stages
    | some p =>
        if isArray && s.filter.isNone && s.sort.isNone then [p.tree] else stages ++ [p.tree]

/-- The expression of a specification, for a document that is an array or not: the pipe of its
stages. -/
def Spec.tree? (isArray : Bool) (s : Spec) : Option Expr := do
  match ← s.trees? isArray with
  | [] => none
  | e :: es => some (es.foldl .pipe e)

/-! ## Texts of pipes -/

theorem parseL_of_ofTokens {s : List CodePoint} {ts : List Token} {e : Expr}
    (hs : tokens s = .ok ts)
    (hts : Expr.ofTokens ts = .ok e) : Expr.parseL s = .ok e := by
  cases s with
  | nil =>
      obtain rfl : ts = [] := (Except.ok.inj hs).symm
      obtain ⟨room, hroom⟩ := Nat.exists_eq_add_of_le Limits.queryPlaces_ge
      have hplaces : Limits.queryPlaces = room + 30 + 2 := by omega
      rw [Expr.ofTokens, hplaces] at hts
      cases hts
  | cons c cs =>
      rw [Expr.parseL, hs]
      exact hts

theorem tokens_pipe (rest : List CodePoint) :
    tokens ((Text.toList " | ") ++ rest) = (Token.pipe :: ·) <$> tokens rest := by
  change tokens (.char ' ' :: .char '|' :: .char ' ' :: rest) = _
  rw [tokens_space, ← tokens_space rest]
  exact Expr.tokens_of_nextToken rfl rfl

end

theorem endsName_pipe (rest : List CodePoint) : EndsName ((Text.toList " | ") ++ rest) :=
  endsName_cons rfl _

section

variable [Limits]

theorem exists_tokens_intercalate {text : List CodePoint} {texts : List (List CodePoint)} {e : Expr}
    {es : List Expr} (hhead : IsStage text e) (h : List.Forall₂ IsStage texts es) :
    ∃ ts stages, Expr.Starts ts e ∧ List.Forall₂ Expr.Starts stages es ∧
      tokens ((Text.toList " | ").intercalate (text :: texts)) = .ok (ts ++ Expr.piped stages) := by
  induction h generalizing text e with
  | nil =>
      obtain ⟨ts, hstarts, htokens⟩ := hhead
      refine ⟨ts, [], hstarts, .nil, ?_⟩
      have := htokens [] endsName_nil
      rw [List.append_nil] at this
      rw [List.intercalate_singleton, this]
      rfl
  | @cons text' e' texts es hstage hrest ih =>
      obtain ⟨ts, hstarts, htokens⟩ := hhead
      obtain ⟨ts', stages, hstarts', hstages, hread⟩ := ih hstage
      refine ⟨ts, ts' :: stages, hstarts, .cons hstarts' hstages, ?_⟩
      rw [List.intercalate_cons_cons, List.append_assoc, htokens _ (endsName_pipe _), tokens_pipe,
        hread]
      simp [Expr.piped]

/-- **Stages with pipe marks between them are read as the pipe of the stages.** -/
theorem parseL_intercalate {text : List CodePoint} {texts : List (List CodePoint)} {e : Expr}
    {es : List Expr}
    (h : List.Forall₂ IsStage (text :: texts) (e :: es)) :
    Expr.parseL ((Text.toList " | ").intercalate (text :: texts)) = .ok (es.foldl .pipe e) := by
  obtain ⟨hhead, hrest⟩ := List.forall₂_cons.1 h
  obtain ⟨ts, stages, hstarts, hstages, htokens⟩ := exists_tokens_intercalate hhead hrest
  exact parseL_of_ofTokens htokens (Expr.ofTokens_pipeline hstarts hstages)

end

/-! ## Texts of specifications -/

theorem exists_ofMark?_of_mem {relation : Text} (h : relation ∈ relations) :
    ∃ c, Comparison.ofMark? relation = some c ∧ relation = c.mark := by
  simp only [relations, List.mem_cons, List.not_mem_nil, or_false] at h
  rcases h with rfl | rfl | rfl | rfl | rfl | rfl
  · exact ⟨.eq, by decide, rfl⟩
  · exact ⟨.ne, by decide, rfl⟩
  · exact ⟨.lt, by decide, rfl⟩
  · exact ⟨.le, by decide, rfl⟩
  · exact ⟨.gt, by decide, rfl⟩
  · exact ⟨.ge, by decide, rfl⟩

section

variable [Limits]

theorem exists_tree_of_render {f : Filter} (hf : f.relation ∈ relations) {text : List CodePoint}
    (h : f.render = .ok text) : ∃ e, f.tree? = some e ∧ IsStage text e := by
  obtain ⟨c, hc, hmark⟩ := exists_ofMark?_of_mem hf
  obtain ⟨operand, hoperand, hstage⟩ := isStage_filter hmark h
  refine ⟨_, ?_, hstage⟩
  rw [Filter.tree?, hc, hoperand]
  rfl

end

/-- A filter does not read like the selector of all items. -/
theorem render_ne_allItems {f : Filter} {text : List CodePoint} (h : f.render = .ok text) :
    text ≠ allItems := by
  unfold Filter.render at h
  obtain ⟨literal, -, h⟩ := exists_of_bind_eq_ok h
  obtain rfl := Except.ok.inj h
  intro heq
  have := congrArg (fun s : List CodePoint => s[1]?) heq
  cases this

/-- The text at the head of a query. -/
def Spec.headText (isArray : Bool) (s : Spec) : Except TooLong (List CodePoint) :=
  match s.filter with
  | some f => f.render
  | none => .ok (baseSelector isArray)

theorem stages_eq (isArray : Bool) (s : Spec) :
    s.stages isArray = (do
      let head ← s.headText isArray
      let stages := head :: (s.sort.map SortKey.render).toList
      return match s.projection with
        | none => stages
        | some p => (if stages = [allItems] then [] else stages) ++ [p.render]) := by
  unfold Spec.stages Spec.headText
  cases s.filter <;> rfl

section

variable [Limits]

/-- The head of a query, with what it says of the shape of the document. -/
theorem exists_head {s : Spec} (hs : s.Valid) {isArray : Bool} {text : List CodePoint}
    (h : s.headText isArray = .ok text) :
    ∃ e, s.head? isArray = some e ∧ IsStage text e ∧
      (text = allItems ↔ isArray = true ∧ s.filter = none) := by
  unfold Spec.headText at h
  cases hfilter : s.filter with
  | some f =>
      rw [hfilter] at h
      obtain ⟨e, htree, hstage⟩ := exists_tree_of_render (hs.relation f hfilter) h
      refine ⟨e, ?_, hstage, ?_⟩
      · rw [Spec.head?, hfilter]
        exact htree
      · simp [render_ne_allItems h]
  | none =>
      rw [hfilter] at h
      obtain rfl := Except.ok.inj h
      refine ⟨if isArray then .project .current .current else .current, ?_, ?_, ?_⟩
      · rw [Spec.head?, hfilter]
      · cases isArray
        · exact isStage_current
        · exact isStage_allItems
      · cases isArray
        · simp [baseSelector, allItems]
        · simp [baseSelector]

theorem forall₂_sort (sort : Option SortKey) :
    List.Forall₂ IsStage (sort.map SortKey.render).toList (sort.map SortKey.tree).toList := by
  cases sort with
  | none => exact .nil
  | some s => exact .cons (isStage_sort s) .nil

/-- The stage texts of a specification, one by one, are read as its stages. -/
theorem exists_trees_of_stages {s : Spec} (hs : s.Valid) {isArray : Bool}
    {texts : List (List CodePoint)}
    (h : s.stages isArray = .ok texts) :
    ∃ es, s.trees? isArray = some es ∧ List.Forall₂ IsStage texts es ∧ texts ≠ [] := by
  rw [stages_eq] at h
  obtain ⟨head, hhead, h⟩ := exists_of_bind_eq_ok h
  obtain ⟨e, htree, hstage, hall⟩ := exists_head hs hhead
  have hstages := List.Forall₂.cons hstage (forall₂_sort s.sort)
  have hone : head :: (s.sort.map SortKey.render).toList = [allItems] ↔
      (isArray && s.filter.isNone && s.sort.isNone) = true := by
    rw [List.cons.injEq, hall]
    cases s.sort <;> simp
  rw [Spec.trees?, htree]
  cases hprojection : s.projection with
  | none =>
      rw [hprojection] at h
      obtain rfl := Except.ok.inj h
      exact ⟨_, rfl, hstages, List.cons_ne_nil _ _⟩
  | some p =>
      rw [hprojection] at h
      obtain rfl := Except.ok.inj h
      have hp := isStage_projection (hs.paths p hprojection)
      by_cases hdrop : (isArray && s.filter.isNone && s.sort.isNone) = true
      · refine ⟨[p.tree], congrArg some (if_pos hdrop), ?_, List.append_ne_nil_of_right_ne_nil _
          (List.cons_ne_nil _ _)⟩
        dsimp only
        rw [if_pos (hone.2 hdrop)]
        exact .cons hp .nil
      · refine ⟨e :: (s.sort.map SortKey.tree).toList ++ [p.tree], congrArg some (if_neg hdrop), ?_,
          List.append_ne_nil_of_right_ne_nil _ (List.cons_ne_nil _ _)⟩
        dsimp only
        rw [if_neg (mt hone.1 hdrop)]
        exact List.rel_append hstages (.cons hp .nil)

/-- The query text of a valid specification is read as its expression. -/
theorem exists_parse_query {s : Spec} (hs : s.Valid) {isArray : Bool} {query : Text}
    (h : s.query isArray = .ok query) :
    ∃ e, s.tree? isArray = some e ∧ Expr.parse query = .ok e := by
  unfold Spec.query at h
  obtain ⟨texts, hstages, h⟩ := exists_of_bind_eq_ok h
  obtain rfl := Except.ok.inj h
  obtain ⟨es, htrees, hforall, hne⟩ := exists_trees_of_stages hs hstages
  cases hforall with
  | nil => exact absurd rfl hne
  | @cons text e texts es hhead hrest =>
      refine ⟨es.foldl .pipe e, ?_, ?_⟩
      · rw [Spec.tree?, htrees]
        rfl
      · rw [Expr.parse, Text.toList_ofList]
        exact parseL_intercalate (.cons hhead hrest)

end

theorem isArray_ofDocument (d : Json.Document) : (Expr.Item.ofDocument d).isArray = d.isArray := by
  cases d with
  | reference x => exact x.elim
  | _ => rfl

section

variable [Limits]

/-- **No injection.** Whatever stands in a specification that was read, the query text that it is
compiled to is read as the expression that the specification names. -/
theorem parse_compile {key : Text} {raw : Option Config.Tree} {s : Spec} {d : Json.Document}
    {query : Text} (hs : Config.readSpec key raw = .ok s)
    (hquery : Language.jmesPath.compile (Expr.Item.ofDocument d) s = .ok query) :
    ∃ e, s.tree? d.isArray = some e ∧ Expr.parse query = .ok e := by
  rw [← isArray_ofDocument]
  exact exists_parse_query (Config.readSpec_valid hs) hquery

end

/-- A setting with a stage of every kind, full of marks of the query language. -/
def markedSetting : Config.Tree :=
  .mapping
    [(.text "filter", .mapping [(.text "path", .list [.text "a b", .text "c"]),
      (.text "relation", .text ">="), (.text "value", .text "\x60] | \\\"")]),
    (.text "sort", .mapping [(.text "direction", .text " Desc")]),
    (.text "projection", .mapping [(.text "paths", .list [.text "x", .list []])])]

/-- The specification that the setting spells out. -/
def markedSpec : Spec where
  filter := some ⟨["a b", "c"], ">=", .text "\x60] | \\\""⟩
  sort := some ⟨[], "desc"⟩
  projection := some ⟨[["x"], []]⟩

/-- The text of the specification, in which every mark is escaped. -/
def markedQuery : Text :=
  "[? \"a b\".c >= \x60\"\\\x60] | \\\\\\\"\"\x60] | reverse(sort_by(@, &@)) | " ++
    "[*].\x7bx: x, \"@\": @\x7d"

theorem parse_compile_marked :
    letI := Limits.ordinary
    Config.readSpec "query" (some markedSetting) = .ok markedSpec ∧
      Language.jmesPath.compile (Expr.Item.ofDocument (.array [.null])) markedSpec =
        .ok markedQuery ∧
      ∃ e, markedSpec.tree? true = some e ∧ Expr.parse markedQuery = .ok e :=
  ⟨rfl, rfl, @parse_compile Limits.ordinary "query" (some markedSetting) markedSpec (.array [.null])
    markedQuery rfl rfl⟩

end Winnow
