import Winnow.Proofs.Expr.Reading
import Winnow.Proofs.Spec.Lexemes

/-!
# Stages are read back

The text of every stage of a specification falls into tokens that are read as one expression, up to
a pipe mark or the end.

* `IsStage` — a text that is read as an expression wherever it stands as a stage.
* `isStage_filter`, `isStage_sort`, `isStage_projection`, … — the stages of specifications.
-/

namespace Winnow

open Winnow.Expr (Token tokens Starts IsPath chain)

/-! ## Stages -/

section

variable [Limits]

/-- A text that is read as `e` where it is a stage of a query. -/
def IsStage (text : List CodePoint) (e : Expr) : Prop :=
  ∃ ts, Starts ts e ∧ ∀ rest, EndsName rest → tokens (text ++ rest) = (ts ++ ·) <$> tokens rest

theorem tokens_space (rest : List CodePoint) : tokens (.char ' ' :: rest) = tokens rest :=
  Expr.tokens_of_isSpace rfl rest

/-! ## Marks -/

/-- The marks that are a token by themselves, whatever follows them. -/
def markToken? : CodePoint → Option Token
  | '.' => some .dot
  | ',' => some .comma
  | ':' => some .colon
  | '@' => some .current
  | '(' => some .leftParen
  | ')' => some .rightParen
  | ']' => some .rightBracket
  | '*' => some .star
  | '\x7b' => some .leftBrace
  | '\x7d' => some .rightBrace
  | _ => none

theorem tokens_mark {c : CodePoint} {t : Token} (h : markToken? c = some t)
    (rest : List CodePoint) :
    tokens (c :: rest) = (t :: ·) <$> tokens rest := by
  unfold markToken? at h
  split at h <;> cases h <;> exact Expr.tokens_of_nextToken rfl rfl

end

/-! ## Paths -/

theorem segmentToken_names (name : Text) : (segmentToken name).Names name := by
  rw [segmentToken]
  split_ifs
  · exact .inl rfl
  · exact .inr rfl

theorem dotted_flatMap (path : FieldPath) :
    Expr.Dotted path (path.flatMap fun name => [.dot, segmentToken name]) := by
  induction path with
  | nil => exact .nil
  | cons name path ih => exact .cons (segmentToken_names name) ih

theorem isPath_pathTokens (path : FieldPath) : IsPath path (pathTokens path) := by
  cases path with
  | nil => exact .current
  | cons name path => exact .names (segmentToken_names name) (dotted_flatMap path)

/-! ## The head of a query -/

section

variable [Limits]

theorem isStage_current : IsStage [.char '@'] .current := by
  refine ⟨[.current], Expr.starts_of_readHead fun _ _ => ?_, fun rest _ => ?_⟩
  · simp [Expr.readHead]
  · exact Expr.tokens_of_nextToken rfl rfl

theorem tokens_allItems (rest : List CodePoint) :
    tokens (allItems ++ rest) =
      ([.leftBracket, .star, .rightBracket] ++ ·) <$> tokens rest := by
  change tokens (.char '[' :: .char '*' :: .char ']' :: rest) = _
  have hopen : tokens (.char '[' :: .char '*' :: .char ']' :: rest) =
      (Token.leftBracket :: ·) <$> tokens (.char '*' :: .char ']' :: rest) :=
    Expr.tokens_of_nextToken rfl rfl
  rw [hopen, tokens_mark rfl, tokens_mark rfl]
  cases tokens rest <;> rfl

theorem isStage_allItems : IsStage allItems (.project .current .current) := by
  refine ⟨[.leftBracket, .star, .rightBracket], Expr.starts_of_readHead fun _ hrest => ?_,
    fun rest _ => tokens_allItems rest⟩
  exact Expr.readHead_allItems (Expr.readProjected_stop (lt_of_le_of_lt hrest (by decide)))

/-! ## Filters -/

/-- The token of a comparison. -/
def Comparison.token : Comparison → Token
  | .eq => .eq
  | .ne => .ne
  | .lt => .lt
  | .le => .le
  | .gt => .gt
  | .ge => .ge

theorem tokens_comparison (c : Comparison) (rest : List CodePoint) :
    tokens (c.mark.toList ++ .char ' ' :: rest) = (c.token :: ·) <$> tokens rest := by
  rw [← tokens_space rest]
  cases c <;> exact Expr.tokens_of_nextToken rfl rfl

end

theorem power_token (c : Comparison) (rest : List Token) : Expr.power (c.token :: rest) = 5 := by
  cases c <;> rfl

/-- The tokens of a filter. -/
def filterTokens (c : Comparison) (path : FieldPath) (value : Json.Document) : List Token :=
  .filter :: pathTokens path ++ [c.token, .literal value, .rightBracket]

theorem starts_filterTokens (c : Comparison) (path : FieldPath) (value : Json.Document) :
    Starts (filterTokens c path value)
      (.select .current (.compare c (chain path) (.literal value)) .current) := by
  refine Expr.starts_of_readHead fun {count room rest} hcount hrest => ?_
  simp only [filterTokens, List.length_append, List.length_cons, List.length_nil] at hcount
  have hmark : c.token.comparison? = some c := by cases c <;> rfl
  have hpower := power_token c (.literal value :: .rightBracket :: rest)
  obtain ⟨n, hn, hread⟩ := @Expr.exists_readExpr_path count (room + 3) 0 _ _
    (isPath_pathTokens path) (c.token :: .literal value :: .rightBracket :: rest) (by omega)
    (by decide) (by omega)
  obtain ⟨n, rfl⟩ : ∃ m, n = m + 1 := ⟨n - 1, by omega⟩
  have hend : Expr.power (.rightBracket :: rest) ≤ 5 := Nat.zero_le 5
  rw [Expr.extend_of_lt_power (by omega) (Expr.readStep_literal hmark (chain path) value hend),
    Expr.extend_of_power_le (Nat.zero_le 0)] at hread
  have hstep := @Expr.readStep_filter count (room + 7) .current _ _ rest hread hrest
  simpa [filterTokens, Expr.readHead] using hstep

section

variable [Limits]

theorem tokens_filter (c : Comparison) (path : FieldPath) {v : Scalar} {literal : List CodePoint}
    (h : renderLiteral v = .ok literal) (rest : List CodePoint) :
    ∃ operand, v.operand = .ok operand ∧
      tokens ((Text.toList "[? ") ++ renderPath path ++ [.char ' '] ++ c.mark.toList ++
        [.char ' '] ++ literal ++ [.char ']'] ++
          rest) =
        (filterTokens c path operand.written ++ ·) <$> tokens rest := by
  obtain ⟨operand, hoperand, hliteral⟩ := tokens_renderLiteral h (.char ']' :: rest)
  refine ⟨operand, hoperand, ?_⟩
  have hopen : ∀ s, tokens ((Text.toList "[? ") ++ s) = (Token.filter :: ·) <$> tokens s := by
    intro s
    rw [← tokens_space s]
    exact Expr.tokens_of_nextToken rfl rfl
  simp only [List.append_assoc, List.cons_append, List.nil_append]
  rw [hopen, tokens_renderPath path (endsName_cons rfl _), tokens_space, tokens_comparison,
    hliteral, tokens_mark rfl]
  cases tokens rest <;> simp [filterTokens]

/-- The stage of a filter is a filter projection on the value itself. -/
theorem isStage_filter {f : Filter} {c : Comparison} {text : List CodePoint}
    (hc : f.relation = c.mark)
    (h : f.render = .ok text) :
    ∃ operand, f.value.operand = .ok operand ∧
      IsStage text
        (.select .current (.compare c (chain f.path) (.literal operand.written)) .current) := by
  unfold Filter.render at h
  cases hliteral : renderLiteral f.value with
  | error e =>
      rw [hliteral] at h
      cases h
  | ok literal =>
      rw [hliteral] at h
      obtain rfl := Except.ok.inj h
      obtain ⟨operand, hoperand, -⟩ := tokens_filter c f.path hliteral []
      refine ⟨operand, hoperand, filterTokens c f.path operand.written,
        starts_filterTokens c f.path _, fun rest _ => ?_⟩
      obtain ⟨operand', hoperand', htokens⟩ := tokens_filter c f.path hliteral rest
      obtain rfl : operand = operand' := Except.ok.inj (hoperand.symm.trans hoperand')
      rw [hc]
      exact htokens

/-! ## Sorts -/

/-- The tokens of the arguments of a sort, with the parenthesis after them. -/
def sortTokens (path : FieldPath) : List Token :=
  [.current, .comma, .reference] ++ pathTokens path ++ [.rightParen]

end

theorem readArguments_sortTokens {count room : ℕ} (path : FieldPath) {rest : List Token}
    (hcount : (sortTokens path).length ≤ count) :
    Expr.readArguments (Expr.readExpr count (room + 7) 0) count (sortTokens path ++ rest) =
      .ok ([.current, .reference (chain path)], rest) := by
  have hlen := (isPath_pathTokens path).length_pos
  simp only [sortTokens, List.length_append, List.length_cons, List.length_nil] at hcount
  obtain ⟨n, rfl⟩ : ∃ n, count = n + 3 := ⟨count - 3, by omega⟩
  have hfirst : Expr.readExpr (n + 3) (room + 7) 0 (.current :: .comma :: .reference ::
      (pathTokens path ++ .rightParen :: rest)) =
        .ok (.current, .comma :: .reference :: (pathTokens path ++ .rightParen :: rest)) :=
    @Expr.readExpr_chain (n + 3) (room + 2) 0 _ _ .current _ (by simp) (by decide) (Nat.zero_le 0)
  have hpath : Expr.readExpr (n + 3) (room + 5) 0 (pathTokens path ++ .rightParen :: rest) =
      .ok (chain path, .rightParen :: rest) :=
    Expr.readExpr_chain (isPath_pathTokens path) (by omega) (by decide) (Nat.zero_le 0)
  have hhead :
      Expr.readHead (n + 3) (room + 6) (.reference :: (pathTokens path ++ .rightParen :: rest)) =
      .ok (.reference (chain path), .rightParen :: rest) := by
    simp only [Expr.readHead]
    rw [hpath]
    rfl
  have hsecond : Expr.readExpr (n + 3) (room + 7) 0
      (.reference :: (pathTokens path ++ .rightParen :: rest)) =
        .ok (.reference (chain path), .rightParen :: rest) := by
    rw [Expr.readExpr_of_readHead hhead, Expr.extend_of_power_le (Nat.zero_le 0)]
  have hts : sortTokens path ++ rest =
      .current :: .comma :: .reference :: (pathTokens path ++ .rightParen :: rest) := by
    simp [sortTokens]
  rw [hts]
  exact Expr.readArguments_comma (by simp) hfirst (Expr.readArguments_last (by simp) hsecond)

section

variable [Limits]

theorem tokens_name {name : Text} (h : Text.isBareName name.toList = true)
    (rest : List CodePoint) :
    tokens (name.toList ++ .char '(' :: rest) =
      (Token.name name :: ·) <$> (Token.leftParen :: ·) <$> tokens rest := by
  rw [tokens_bareName h (endsName_cons rfl _), tokens_mark rfl]

/-- The text of a sort without its direction. -/
def ascendingText (path : FieldPath) : List CodePoint :=
  (Text.toList "sort_by(@, &") ++ renderPath path ++ [.char ')']

end

theorem exists_renderSegment_eq_cons (name : Text) :
    ∃ c cs, renderSegment name = c :: cs ∧ c ≠ '&' := by
  rw [renderSegment]
  split_ifs with hbare
  · cases h : name.toList with
    | nil =>
        rw [h] at hbare
        cases hbare
    | cons c cs =>
        rw [h] at hbare
        refine ⟨c, cs, rfl, ?_⟩
        rintro rfl
        cases hbare
  · exact ⟨'"', _, rfl, by decide⟩

theorem exists_renderPath_eq_cons (path : FieldPath) :
    ∃ c cs, renderPath path = c :: cs ∧ c ≠ '&' := by
  cases path with
  | nil => exact ⟨'@', [], rfl, by decide⟩
  | cons name path =>
      obtain ⟨c, cs, hcons, hne⟩ := exists_renderSegment_eq_cons name
      refine ⟨c, ?_⟩
      change ∃ cs, [.char '.'].intercalate ((name :: path).map renderSegment) = _ ∧ _
      rw [List.map_cons, hcons, List.intercalate_cons_cons_left]
      exact ⟨_, rfl, hne⟩

section

variable [Limits]

theorem tokens_reference {c : CodePoint} (hc : c ≠ '&') (rest : List CodePoint) :
    tokens (.char '&' :: c :: rest) = (Token.reference :: ·) <$> tokens (c :: rest) := by
  refine Expr.tokens_of_nextToken rfl ?_
  unfold Expr.nextToken
  rw [if_neg (by decide), if_neg (by decide)]
  split
  all_goals simp_all

theorem tokens_ascendingText (path : FieldPath) (rest : List CodePoint) :
    tokens (ascendingText path ++ rest) =
      ((Token.name "sort_by" :: .leftParen :: sortTokens path) ++ ·) <$> tokens rest := by
  obtain ⟨c, cs, hcons, hne⟩ := exists_renderPath_eq_cons path
  have hpath := tokens_renderPath path (endsName_cons (c := .char ')') rfl rest)
  rw [hcons, tokens_mark rfl] at hpath
  have htext : ascendingText path ++ rest =
      Text.toList "sort_by" ++ .char '(' :: .char '@' :: .char ',' :: .char ' ' :: .char '&' ::
        (c :: cs ++ .char ')' :: rest) := by
    have hname : Text.toList "sort_by(@, &" =
        Text.toList "sort_by" ++ [.char '(', .char '@', .char ',', .char ' ', .char '&'] := by
      decide
    unfold ascendingText
    rw [hname, hcons]
    simp only [List.append_assoc, List.cons_append, List.nil_append]
  rw [htext, tokens_name (by decide), tokens_mark rfl, tokens_mark rfl, tokens_space,
    List.cons_append, tokens_reference hne, ← List.cons_append, hpath]
  cases tokens rest <;> simp [sortTokens]

theorem tokens_descendingText (path : FieldPath) (rest : List CodePoint) :
    tokens ((Text.toList "reverse(") ++ ascendingText path ++ [.char ')'] ++ rest) =
      ((Token.name "reverse" :: .leftParen :: .name "sort_by" :: .leftParen ::
        (sortTokens path ++ [.rightParen])) ++ ·) <$> tokens rest := by
  have htext : (Text.toList "reverse(") ++ ascendingText path ++ [.char ')'] ++ rest =
      (Text.toList "reverse") ++ .char '(' :: (ascendingText path ++ .char ')' :: rest) := by
    have hname : (Text.toList "reverse(") = (Text.toList "reverse") ++ [.char '('] := by decide
    rw [hname]
    simp only [List.append_assoc, List.cons_append, List.nil_append]
  rw [htext, tokens_name (by decide), tokens_ascendingText, tokens_mark rfl]
  cases tokens rest <;> simp

/-- The expression of a sort. -/
def SortKey.tree (s : SortKey) : Expr :=
  let ascending := .call "sort_by" [.current, .reference (chain s.path)]
  if s.direction = "desc" then .call "reverse" [ascending] else ascending

/-- The stage of a sort is a call, inside another call if the direction is descending. -/
theorem isStage_sort (s : SortKey) : IsStage s.render s.tree := by
  unfold SortKey.render SortKey.tree
  dsimp only
  split_ifs
  · refine ⟨_, Expr.starts_of_call fun {count room rest} hcount => ?_,
      fun rest _ => tokens_descendingText s.path rest⟩
    simp only [List.length_append, List.length_cons, List.length_nil] at hcount
    obtain ⟨n, rfl⟩ : ∃ n, count = n + 2 := ⟨count - 2, by omega⟩
    have hcall : Expr.readExpr (n + 2) (room + 9) 0
        (.name "sort_by" :: .leftParen :: (sortTokens s.path ++ .rightParen :: rest)) =
          .ok (.call "sort_by" [.current, .reference (chain s.path)], .rightParen :: rest) :=
      Expr.readExpr_call (by omega) (readArguments_sortTokens s.path (by omega)) (by decide)
        (Nat.zero_le 0)
    refine Expr.readArguments_last (by simp) ?_
    simpa using hcall
  · exact ⟨_, Expr.starts_of_call fun hcount => readArguments_sortTokens s.path hcount,
      fun rest _ => tokens_ascendingText s.path rest⟩

/-! ## Projections -/

/-- The tokens of a pair: the key and the path. -/
def pairTokens (path : FieldPath) : List Token :=
  segmentToken (pathKey path) :: .colon :: pathTokens path

theorem tokens_renderPair (path : FieldPath) {rest : List CodePoint} (hrest : EndsName rest) :
    tokens (renderPair path ++ rest) = (pairTokens path ++ ·) <$> tokens rest := by
  have htext : renderPair path ++ rest =
      renderSegment (pathKey path) ++ .char ':' :: .char ' ' :: (renderPath path ++ rest) := by
    simp [renderPair]
  rw [htext, tokens_renderSegment _ (endsName_cons rfl _), tokens_mark rfl, tokens_space,
    tokens_renderPath path hrest]
  cases tokens rest <;> simp [pairTokens]

/-- The tokens of pairs with commas between them, and of the brace after them. -/
def pairsTokens : List FieldPath → List Token
  | [] => [.rightBrace]
  | [path] => pairTokens path ++ [.rightBrace]
  | path :: paths => pairTokens path ++ .comma :: pairsTokens paths

theorem tokens_pairs (path : FieldPath) (paths : List FieldPath) (rest : List CodePoint) :
    tokens ([.char ',', .char ' '].intercalate ((path :: paths).map renderPair) ++
      .char '\x7d' :: rest) =
      (pairsTokens (path :: paths) ++ ·) <$> tokens rest := by
  induction paths generalizing path with
  | nil =>
      rw [List.map_singleton, List.intercalate_singleton,
        tokens_renderPair path (endsName_cons rfl _), tokens_mark rfl]
      cases tokens rest <;> simp [pairsTokens]
  | cons path' paths ih =>
      rw [List.map_cons, List.map_cons, List.intercalate_cons_cons, List.append_assoc,
        List.append_assoc, List.cons_append, List.cons_append, List.nil_append,
        tokens_renderPair path (endsName_cons rfl _), tokens_mark rfl, tokens_space]
      have := ih path'
      rw [List.map_cons] at this
      rw [this]
      cases tokens rest <;> simp [pairsTokens]

/-- The pairs of a projection: under the last segment of every path, or the mark of the item, the
chain of the path. -/
def projectedPairs (paths : List FieldPath) : List (Text × Expr) :=
  paths.map fun path => (pathKey path, chain path)

end

theorem readPairs_pairsTokens {count room : ℕ} (path : FieldPath) (paths : List FieldPath) {n : ℕ}
    {rest : List Token} (hn : (pairsTokens (path :: paths)).length ≤ n)
    (hcount : (pairsTokens (path :: paths)).length ≤ count) :
    Expr.readPairs (Expr.readExpr count (room + 5) 0) n (pairsTokens (path :: paths) ++ rest) =
      .ok (projectedPairs (path :: paths), rest) := by
  induction paths generalizing path n with
  | nil =>
      simp only [pairsTokens, pairTokens, List.length_append, List.length_cons] at hn hcount
      obtain ⟨n, rfl⟩ : ∃ m, n = m + 1 := ⟨n - 1, by omega⟩
      have hvalue : Expr.readExpr count (room + 5) 0 (pathTokens path ++ .rightBrace :: rest) =
          .ok (chain path, .rightBrace :: rest) :=
        Expr.readExpr_chain (isPath_pathTokens path) (by omega) (by decide) (Nat.zero_le 0)
      simpa [pairsTokens, pairTokens, projectedPairs] using
        Expr.readPairs_last (n := n) (segmentToken_names (pathKey path)) hvalue
  | cons path' paths ih =>
      have hlen : (pairsTokens (path :: path' :: paths)).length =
          (pathTokens path).length + 3 + (pairsTokens (path' :: paths)).length := by
        simp only [pairsTokens, pairTokens, List.length_append, List.length_cons]
        omega
      rw [hlen] at hn hcount
      obtain ⟨n, rfl⟩ : ∃ m, n = m + 1 := ⟨n - 1, by omega⟩
      have hvalue : Expr.readExpr count (room + 5) 0
          (pathTokens path ++ .comma :: (pairsTokens (path' :: paths) ++ rest)) =
            .ok (chain path, .comma :: (pairsTokens (path' :: paths) ++ rest)) :=
        Expr.readExpr_chain (isPath_pathTokens path) (by omega) (by decide) (Nat.zero_le 0)
      have hpairs := Expr.readPairs_comma (segmentToken_names (pathKey path)) hvalue
        (@ih path' n (by omega) (by omega))
      simpa [pairsTokens, pairTokens, projectedPairs] using hpairs

section

variable [Limits]

theorem isStage_hash (path : FieldPath) (paths : List FieldPath) :
    IsStage (allItems ++ [.char '.', .char '\x7b'] ++
      [.char ',', .char ' '].intercalate ((path :: paths).map renderPair) ++
        [.char '\x7d'])
      (.project .current (.hash (projectedPairs (path :: paths)))) := by
  refine ⟨[Token.leftBracket, .star, .rightBracket, .dot, .leftBrace] ++
    pairsTokens (path :: paths),
    Expr.starts_of_readHead fun {count room rest} hcount _ => ?_, fun rest _ => ?_⟩
  · rw [List.length_append] at hcount
    refine Expr.readHead_allItems (Expr.readProjected_dot (Expr.readDotted_hash ?_))
    exact @readPairs_pairsTokens count (room + 1) path paths count rest (by omega) (by omega)
  · simp only [List.append_assoc, List.cons_append, List.nil_append]
    rw [tokens_allItems, tokens_mark rfl, tokens_mark rfl, tokens_pairs]
    cases tokens rest <;> simp

theorem isStage_lookups (name : Text) (path : FieldPath) :
    IsStage (allItems ++ [.char '.'] ++ renderPath (name :: path))
      (.project .current (chain (name :: path))) := by
  refine ⟨[Token.leftBracket, .star, .rightBracket, .dot] ++ pathTokens (name :: path),
    Expr.starts_of_readHead fun {count room rest} hcount hrest => ?_, fun rest hrest => ?_⟩
  · rw [List.length_append] at hcount
    refine Expr.readHead_allItems (Expr.readProjected_dot
      (Expr.readDotted_names (segmentToken_names name) ?_))
    exact @Expr.readExpr_chain count (room + 2) 20 _ _ (isPath_pathTokens (name :: path)) rest
      (by omega) (by decide) (by omega)
  · simp only [List.append_assoc, List.cons_append, List.nil_append]
    rw [tokens_allItems, tokens_mark rfl, tokens_renderPath _ hrest]
    cases tokens rest <;> simp

/-- The expression of a projection. -/
def Projection.tree (p : Projection) : Expr :=
  match p.paths with
  | [path] => .project .current (chain path)
  | paths => .project .current (.hash (projectedPairs paths))

/-- The stage of a projection selects all items and takes from each the values at its paths. -/
theorem isStage_projection {p : Projection} (hp : p.paths ≠ []) : IsStage p.render p.tree := by
  unfold Projection.render Projection.tree
  match hpaths : p.paths with
  | [] => exact absurd hpaths hp
  | [[]] => exact isStage_allItems
  | [name :: path] => exact isStage_lookups name path
  | [] :: path :: paths => exact isStage_hash [] (path :: paths)
  | (name :: names) :: path :: paths => exact isStage_hash (name :: names) (path :: paths)

end

end Winnow
