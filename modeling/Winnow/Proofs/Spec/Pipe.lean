import Winnow.Proofs.Spec.Stepwise

/-!
# Queries one after the other

The query text of a specification is a pipe of stages. Two such texts with a pipe mark between them
are one pipe of all the stages, and a pipe goes through its stages from the left to the right,
however they are grouped.

* `inTurn` — computations one after the other, each at the value of the one before it.
* `computes_foldl_pipe` — a pipe goes through its stages in turn.
* `Staged` — texts of stages, the expressions that they are read as, and what these compute.
* `search_staged` — the search for the text of a pipe.
* `search_pipe` — two query texts with a pipe mark between them.
-/

namespace Winnow

open Winnow.Expr (EvalError Computes)
open Winnow.Expr.Item (ofDocument)

/-! ## Stages in turn -/

namespace Expr

/-- Computations one after the other, each at the value of the one before it. -/
def inTurn (fs : List (Item → Except EvalError Item)) (v : Item) : Except EvalError Item :=
  fs.foldlM (fun w f => f w) v

/-- A group of computations after another group: the first that fails tells the error. -/
theorem inTurn_append (fs gs : List (Item → Except EvalError Item)) (v : Item) :
    inTurn (fs ++ gs) v = inTurn fs v >>= inTurn gs :=
  List.foldlM_append

/-- A pipe goes through its stages in turn, and takes two more places for every stage. -/
theorem computes_foldl_pipe {n : ℕ} {e : Expr} {es : List Expr}
    {f : Item → Except EvalError Item} {fs : List (Item → Except EvalError Item)}
    (h : Computes n e f) (hs : List.Forall₂ (Computes n) es fs) :
    Computes (n + 2 * es.length) (es.foldl .pipe e) (inTurn (f :: fs)) := by
  -- the pipe grows to the left, so its first stage stands for all that have been read
  have hgrow : ∀ m, n ≤ m → ∀ e f, Computes m e f →
      Computes (m + 2 * es.length) (es.foldl .pipe e) fun v => f v >>= inTurn fs := by
    clear h
    induction hs with
    | nil =>
        intro m _ e f h
        have hpure : (fun v => f v >>= inTurn []) = f := funext fun v => bind_pure (f v)
        rw [hpure]
        exact h
    | @cons e' f' es fs h' _ ih =>
        intro m hm e f h
        have hpipe := ih (m + 2) (by omega) _ _ (computes_pipe h (h'.mono hm))
        have hvalue :
            (fun v => f v >>= inTurn (f' :: fs)) = fun v => (f v >>= f') >>= inTurn fs := by
          funext v
          rw [bind_assoc]
          rfl
        rw [hvalue, List.foldl_cons, List.length_cons]
        exact hpipe.mono (by omega)
  exact hgrow n le_rfl e f h

end Expr

/-! ## Staged texts -/

section

variable [Limits]

/-- The places that are enough for every stage. -/
def stagePlaces : ℕ := 18

/-- Texts that are each read as an expression wherever they stand as a stage, with what the
expressions compute. -/
def Staged (texts : List (List CodePoint)) (fs : List (Item → Except EvalError Item)) : Prop :=
  ∃ es, List.Forall₂ IsStage texts es ∧ List.Forall₂ (Computes stagePlaces) es fs

theorem Staged.append {texts texts' : List (List CodePoint)}
    {fs fs' : List (Item → Except EvalError Item)} (h : Staged texts fs) (h' : Staged texts' fs') :
    Staged (texts ++ texts') (fs ++ fs') := by
  obtain ⟨es, hread, hcomputes⟩ := h
  obtain ⟨es', hread', hcomputes'⟩ := h'
  exact ⟨es ++ es', List.rel_append hread hread', List.rel_append hcomputes hcomputes'⟩

/-- The text of a pipe. -/
def pipeText (texts : List (List CodePoint)) : Text :=
  Text.ofList ((Text.toList " | ").intercalate texts)

end

theorem intercalate_append {mark : List CodePoint} {texts texts' : List (List CodePoint)}
    (h : texts ≠ [])
    (h' : texts' ≠ []) :
    mark.intercalate (texts ++ texts') =
      mark.intercalate texts ++ mark ++ mark.intercalate texts' := by
  obtain ⟨text', texts', rfl⟩ := List.exists_cons_of_ne_nil h'
  induction texts with
  | nil => exact absurd rfl h
  | cons text texts ih =>
      cases texts with
      | nil => exact List.intercalate_cons_cons.trans (by rw [List.intercalate_singleton])
      | cons next texts =>
          have hrest := ih (List.cons_ne_nil next texts)
          simp only [List.cons_append, List.intercalate_cons_cons, List.append_assoc] at hrest ⊢
          rw [hrest]

theorem pipeText_append {texts texts' : List (List CodePoint)} (h : texts ≠ []) (h' : texts' ≠ []) :
    pipeText (texts ++ texts') = pipeText texts ++ " | " ++ pipeText texts' := by
  rw [pipeText, intercalate_append h h', Text.ofList_append, Text.ofList_append,
    Text.ofList_toList]
  rfl

section

variable [Limits]

/-- The search for the text of a pipe goes through its stages in turn. -/
theorem search_staged {texts : List (List CodePoint)} {fs : List (Item → Except EvalError Item)}
    (h : Staged texts fs) (hne : texts ≠ []) (hlength : texts.length ≤ 8) (v : Item) :
    Expr.search (pipeText texts) v = (Expr.inTurn fs v).mapError .eval := by
  obtain ⟨es, hread, hcomputes⟩ := h
  have hcount := hread.length_eq
  cases hcomputes with
  | nil => exact absurd (List.forall₂_nil_right_iff.1 hread) hne
  | @cons e f es fs hhead hrest =>
      obtain ⟨text, texts, -, -, rfl⟩ := List.forall₂_cons_right_iff.1 hread
      have hplaces : stagePlaces + 2 * es.length ≤ 62 := by
        rw [List.length_cons, List.length_cons] at hcount
        rw [List.length_cons] at hlength
        unfold stagePlaces
        omega
      have hparse : Expr.parse (pipeText (text :: texts)) = .ok (es.foldl .pipe e) := by
        rw [Expr.parse, pipeText, Text.toList_ofList]
        exact parseL_intercalate hread
      rw [Expr.search, hparse]
      have hvalue := Expr.eval_of_computes (Expr.computes_foldl_pipe hhead hrest) hplaces v
      exact congrArg (Except.mapError Expr.SearchError.eval) hvalue

end

/-! ## Queries of specifications -/

/-- Every stage of a specification needs few places. -/
theorem exists_forall₂_computes {s : Spec} {isArray : Bool} {es : List Expr}
    (h : s.trees? isArray = some es) : ∃ fs, List.Forall₂ (Computes stagePlaces) es fs := by
  unfold Spec.trees? at h
  obtain ⟨head, hhead, h⟩ := Option.bind_eq_some_iff.1 h
  have hstages : ∃ fs, List.Forall₂ (Computes stagePlaces)
      (head :: (s.sort.map SortKey.tree).toList) fs := by
    have hfirst := (computes_head hhead).mono (show 10 ≤ stagePlaces by decide)
    cases s.sort with
    | none => exact ⟨_, .cons hfirst .nil⟩
    | some o => exact ⟨_, .cons hfirst (.cons (computes_sort o) .nil)⟩
  cases hprojection : s.projection with
  | none =>
      rw [hprojection] at h
      obtain rfl := Option.some.inj h
      exact hstages
  | some p =>
      rw [hprojection] at h
      obtain rfl := Option.some.inj h
      have hlast := (computes_projection p).mono (show 8 ≤ stagePlaces by decide)
      obtain ⟨fs, hfs⟩ := hstages
      split_ifs
      · exact ⟨_, .cons hlast .nil⟩
      · exact ⟨_, List.rel_append hfs (.cons hlast .nil)⟩

/-- A specification has a head, perhaps a sort, and perhaps a projection. -/
theorem length_stages_le {s : Spec} {isArray : Bool} {texts : List (List CodePoint)}
    (h : s.stages isArray = .ok texts) : texts.length ≤ 3 := by
  rw [stages_eq] at h
  obtain ⟨head, -, h⟩ := exists_of_bind_eq_ok h
  obtain rfl := Except.ok.inj h
  have hsort : (s.sort.map SortKey.render).toList.length ≤ 1 := by
    cases s.sort <;> simp
  cases s.projection with
  | none =>
      rw [List.length_cons]
      omega
  | some p =>
      dsimp only
      rw [List.length_append]
      split_ifs
      · exact show 0 + 1 ≤ 3 by decide
      · rw [List.length_cons, List.length_singleton]
        omega

section

variable [Limits]

/-- The query text of a valid specification is the text of a pipe of at most three stages. -/
theorem exists_staged_of_query {s : Spec} (hs : s.Valid) {isArray : Bool} {query : Text}
    (h : s.query isArray = .ok query) :
    ∃ texts fs, query = pipeText texts ∧ Staged texts fs ∧ texts ≠ [] ∧ texts.length ≤ 3 := by
  unfold Spec.query at h
  obtain ⟨texts, hstages, h⟩ := exists_of_bind_eq_ok h
  obtain rfl := Except.ok.inj h
  obtain ⟨es, htrees, hread, hne⟩ := exists_trees_of_stages hs hstages
  obtain ⟨fs, hcomputes⟩ := exists_forall₂_computes htrees
  exact ⟨texts, fs, rfl, ⟨es, hread, hcomputes⟩, hne, length_stages_le hstages⟩

/-- **Queries compose with a pipe.** Two query texts of specifications with a pipe mark between them
are searched for as the two are one after the other, the second in what the first yields: the value
is the same, and so is the error of the first of them that fails. The texts may be made for
documents of any shape, and the law holds at every value. -/
theorem search_pipe {key₁ key₂ : Text} {raw₁ raw₂ : Option Config.Tree} {s₁ s₂ : Spec}
    {d₁ d₂ : Json.Document} {query₁ query₂ : Text}
    (hs₁ : Config.readSpec key₁ raw₁ = .ok s₁) (hs₂ : Config.readSpec key₂ raw₂ = .ok s₂)
    (hquery₁ : Language.jmesPath.compile (ofDocument d₁) s₁ = .ok query₁)
    (hquery₂ : Language.jmesPath.compile (ofDocument d₂) s₂ = .ok query₂) (v : Item) :
    Language.jmesPath.search (query₁ ++ " | " ++ query₂) v =
      Language.jmesPath.search query₁ v >>= Language.jmesPath.search query₂ := by
  obtain ⟨texts₁, fs₁, rfl, hstaged₁, hne₁, hlength₁⟩ :=
    exists_staged_of_query (Config.readSpec_valid hs₁) hquery₁
  obtain ⟨texts₂, fs₂, rfl, hstaged₂, hne₂, hlength₂⟩ :=
    exists_staged_of_query (Config.readSpec_valid hs₂) hquery₂
  have hfirst := search_staged hstaged₁ hne₁ (by omega)
  have hsecond := search_staged hstaged₂ hne₂ (by omega)
  have hboth := search_staged (hstaged₁.append hstaged₂) (List.append_ne_nil_of_left_ne_nil hne₁ _)
    (by rw [List.length_append]; omega)
  change Expr.search _ v = Expr.search _ v >>= Expr.search _
  rw [← pipeText_append hne₁ hne₂, hboth, hfirst, funext hsecond, Expr.inTurn_append]
  cases Expr.inTurn fs₁ v <;> rfl

/-- A setting that asks for a sort by one key. -/
def byNameSetting : Config.Tree :=
  .mapping [(.text "sort", .mapping [(.text "path", .text "x")])]

/-- The specification that the setting spells out. -/
def byNameSpec : Spec := { sort := some ⟨["x"], "asc"⟩ }

/-- Two items, of which the condition of the marked query holds for the first. -/
def markedItems : Json.Document :=
  .array [.object [("a b", .object [("c", .text "~")]), ("x", .number (.int 1))], .object []]

end

theorem search_pipe_marked :
    letI := Limits.ordinary
    Config.readSpec "query" (some markedSetting) = .ok markedSpec ∧
      Config.readSpec "query" (some byNameSetting) = .ok byNameSpec ∧
      Language.jmesPath.compile (ofDocument (.array [.null])) markedSpec = .ok markedQuery ∧
      Language.jmesPath.compile (ofDocument .null) byNameSpec = .ok "@ | sort_by(@, &x)" ∧
      Language.jmesPath.search (markedQuery ++ " | " ++ "@ | sort_by(@, &x)")
          (ofDocument markedItems) =
        Language.jmesPath.search markedQuery (ofDocument markedItems) >>=
          Language.jmesPath.search "@ | sort_by(@, &x)" :=
  ⟨rfl, rfl, rfl, rfl,
    @search_pipe Limits.ordinary "query" "query" (some markedSetting)
      (some byNameSetting) markedSpec
      byNameSpec (.array [.null]) .null markedQuery "@ | sort_by(@, &x)" rfl rfl rfl rfl
      (ofDocument markedItems)⟩

end Winnow
