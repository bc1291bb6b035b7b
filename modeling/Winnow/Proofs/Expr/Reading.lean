import Mathlib
import Winnow.Expr.Reader

/-!
# Reading by binding powers

How an expression is read when its tokens are those of its parts, one after the other.

* `extend_of_power_le`, `extend_of_lt_power` — an expression is extended up to a token that binds
  too weakly.
* `chain`, `readExpr_chain` — lookups one after the other are read as a chain.
* `readPairs_last`, `readPairs_comma`, `readArguments_last`, `readArguments_comma` — the parts of
  hashes and calls, one by one.
* `Starts` — tokens that are read as one stage of a pipe, whatever follows the pipe mark.
* `ofTokens_pipeline` — stages with pipe marks between them are read as a pipe of the stages.
-/

namespace Winnow.Expr

variable {count room bound : ℕ}

/-! ## Extension -/

theorem extend_of_power_le {step : Expr → List Token → Except ParseError (Reading Expr)}
    {left : Expr}
    {ts : List Token} (h : power ts ≤ bound) :
    extend step bound count left ts = .ok (left, ts) := by
  cases count with
  | zero => rfl
  | succ count => rw [extend, if_neg (not_lt.2 h)]

theorem extend_of_lt_power {step : Expr → List Token → Except ParseError (Reading Expr)}
    {left e : Expr} {ts rest : List Token} (h : bound < power ts)
    (hstep : step left ts = .ok (e, rest)) :
    extend step bound (count + 1) left ts = extend step bound count e rest := by
  rw [extend, if_pos h, hstep]
  rfl

theorem readExpr_of_readHead {left : Expr} {ts rest : List Token}
    (h : readHead count room ts = .ok (left, rest)) :
    readExpr count (room + 1) bound ts = extend (readStep count room) bound count left rest := by
  rw [readExpr, h]
  rfl

/-! ## Chains of lookups -/

/-- Whether a token names the key `name`. -/
def Token.Names (t : Token) (name : Text) : Prop := t = .name name ∨ t = .quoted name

/-- The lookup of a key after another expression, or in the value itself. -/
def lookups (left : Expr) (names : List Text) : Expr :=
  names.foldl (fun e name => .sub e (.field name)) left

/-- The chain of lookups of a path; the empty path is the value itself. -/
def chain : List Text → Expr
  | [] => .current
  | name :: names => lookups (.field name) names

/-- A key is read as its lookup, if no parenthesis follows it. -/
theorem readHead_names {t : Token} {name : Text} (ht : t.Names name) {rest : List Token}
    (hrest : power rest ≤ 40) :
    readHead count (room + 1) (t :: rest) = .ok (.field name, rest) := by
  rcases ht with rfl | rfl
  · simp [readHead]
  · cases rest with
    | nil => simp [readHead]
    | cons u rest =>
        cases u with
        | leftParen => exact absurd (show 60 ≤ 40 from hrest) (by decide)
        | _ => simp [readHead]

/-- A lookup after a dot. -/
theorem readStep_dot {t : Token} {name : Text} (ht : t.Names name) {left : Expr}
    {rest : List Token} (hrest : power rest ≤ 40) :
    readStep count (room + 4) left (.dot :: t :: rest) = .ok (.sub left (.field name), rest) := by
  have hright : readExpr count (room + 2) 40 (t :: rest) = .ok (.field name, rest) := by
    rw [readExpr_of_readHead (readHead_names ht hrest), extend_of_power_le hrest]
  have hdotted : readDotted count (room + 3) 40 (t :: rest) = .ok (.field name, rest) := by
    rcases ht with rfl | rfl
    · rw [readDotted, hright]
    · rw [readDotted, hright]
  have hstep : readStep count (room + 4) left (.dot :: t :: rest) =
      (readDotted count (room + 3) 40 (t :: rest) >>= fun p => pure (.sub left p.1, p.2)) := by
    rcases ht with rfl | rfl <;> simp [readStep, Token.power]
  rw [hstep, hdotted]
  rfl

/-- The tokens of lookups after another expression. -/
inductive Dotted : List Text → List Token → Prop
  | nil : Dotted [] []
  | cons {name : Text} {names : List Text} {t : Token} {ts : List Token} (ht : t.Names name)
      (h : Dotted names ts) : Dotted (name :: names) (.dot :: t :: ts)

theorem Dotted.power_le {names : List Text} {ts : List Token} (h : Dotted names ts)
    {rest : List Token} (hrest : power rest ≤ 40) : power (ts ++ rest) ≤ 40 := by
  cases h with
  | nil => exact hrest
  | cons => exact le_refl 40

theorem Dotted.length_eq {names : List Text} {ts : List Token} (h : Dotted names ts) :
    ts.length = 2 * names.length := by
  induction h with
  | nil => rfl
  | cons _ _ ih =>
      simp only [List.length_cons, ih]
      ring

theorem extend_dotted {names : List Text} {ts : List Token} (h : Dotted names ts) {left : Expr}
    {rest : List Token} (n : ℕ) (hbound : bound < 40) (hrest : power rest ≤ 40) :
    extend (readStep count (room + 4)) bound (n + names.length) left (ts ++ rest) =
      extend (readStep count (room + 4)) bound n (lookups left names) rest := by
  induction h generalizing left with
  | nil => rfl
  | @cons name names t ts ht h ih =>
      rw [List.cons_append, List.cons_append, List.length_cons, ← Nat.add_assoc,
        extend_of_lt_power hbound (readStep_dot ht (h.power_le hrest)), ih]
      rfl

/-- The tokens of a path. -/
inductive IsPath : List Text → List Token → Prop
  | current : IsPath [] [.current]
  | names {name : Text} {names : List Text} {t : Token} {ts : List Token} (ht : t.Names name)
      (h : Dotted names ts) : IsPath (name :: names) (t :: ts)

/-- The reader takes the tokens of a path for its chain, before it looks at what follows. -/
theorem exists_readExpr_path {path : List Text} {ts : List Token} (h : IsPath path ts)
    {rest : List Token} (hcount : ts.length ≤ count) (hbound : bound < 40)
    (hrest : power rest ≤ 40) :
    ∃ n, count ≤ n + ts.length ∧
      readExpr count (room + 5) bound (ts ++ rest) =
        extend (readStep count (room + 4)) bound n (chain path) rest := by
  cases h with
  | current =>
      have hhead : readHead count (room + 4) ([.current] ++ rest) = .ok (.current, rest) := by
        simp [readHead]
      exact ⟨count, Nat.le_add_right _ _, readExpr_of_readHead hhead⟩
  | @names name names t ts ht h =>
      have hlen := h.length_eq
      rw [List.length_cons] at hcount ⊢
      obtain ⟨n, rfl⟩ : ∃ n, count = n + names.length := ⟨count - names.length, by omega⟩
      refine ⟨n, by omega, ?_⟩
      rw [List.cons_append, readExpr_of_readHead (readHead_names ht (h.power_le hrest)),
        extend_dotted h n hbound hrest]
      rfl

/-- **The tokens of a path are read as its chain of lookups.** -/
theorem readExpr_chain {path : List Text} {ts : List Token} (h : IsPath path ts)
    {rest : List Token} (hcount : ts.length ≤ count) (hbound : bound < 40)
    (hrest : power rest ≤ bound) :
    readExpr count (room + 5) bound (ts ++ rest) = .ok (chain path, rest) := by
  obtain ⟨n, -, hread⟩ := exists_readExpr_path h hcount hbound (hrest.trans hbound.le)
  rw [hread, extend_of_power_le hrest]

theorem IsPath.length_pos {path : List Text} {ts : List Token} (h : IsPath path ts) :
    0 < ts.length := by
  cases h <;> simp

/-! ## Projections -/

/-- A projection ends before a token that binds weakly. -/
theorem readProjected_stop {ts : List Token} (h : power ts < projectionStop) :
    readProjected count (room + 1) bound ts = .ok (.current, ts) := by
  unfold readProjected
  rw [if_pos h]

theorem readProjected_dot {e : Expr} {ts rest : List Token}
    (h : readDotted count room bound ts = .ok (e, rest)) :
    readProjected count (room + 1) bound (.dot :: ts) = .ok (e, rest) := by
  unfold readProjected
  exact (if_neg (show ¬40 < 10 by decide)).trans h

/-- The selector of all items with what is done to each of them. -/
theorem readHead_allItems {right : Expr} {ts rest : List Token}
    (h : readProjected count room 20 ts = .ok (right, rest)) :
    readHead count (room + 1) (.leftBracket :: .star :: .rightBracket :: ts) =
      .ok (.project .current right, rest) := by
  simp only [readHead, Token.power]
  rw [h]
  rfl

/-- A filter that ends its stage. -/
theorem readStep_filter {left condition : Expr} {ts rest : List Token}
    (h : readExpr count (room + 1) 0 ts = .ok (condition, .rightBracket :: rest))
    (hrest : power rest ≤ 1) :
    readStep count (room + 2) left (.filter :: ts) =
      .ok (.select left condition .current, rest) := by
  have hprojected : readProjected count (room + 1) 21 rest = .ok (.current, rest) :=
    readProjected_stop (lt_of_le_of_lt hrest (by decide))
  simp only [readStep, Token.power]
  rw [h]
  dsimp only [bind, Except.bind, skipRightBracket]
  split
  · exact absurd (show 9 ≤ 1 from hrest) (by decide)
  · rw [hprojected]
    rfl

/-- A comparison with a literal at the end of a condition. -/
theorem readStep_literal {c : Comparison} {t : Token} (ht : t.comparison? = some c) (left : Expr)
    (value : Json.Document) {rest : List Token} (hrest : power rest ≤ 5) :
    readStep count (room + 4) left (t :: .literal value :: rest) =
      .ok (.compare c left (.literal value), rest) := by
  have hhead : readHead count (room + 1) (.literal value :: rest) = .ok (.literal value, rest) := by
    simp [readHead]
  have hcompared : readCompared count (room + 3) c left (.literal value :: rest) =
      .ok (.compare c left (.literal value), rest) := by
    rw [readCompared]
    change (readExpr count (room + 2) 5 _ >>= _) = _
    rw [readExpr_of_readHead hhead, extend_of_power_le hrest]
    rfl
  cases t <;> cases ht <;> simpa [readStep, Token.comparison?] using hcompared

/-- What follows a dot and starts with a name. -/
theorem readDotted_names {t : Token} {name : Text} (ht : t.Names name) {e : Expr}
    {ts rest : List Token} (h : readExpr count room bound (t :: ts) = .ok (e, rest)) :
    readDotted count (room + 1) bound (t :: ts) = .ok (e, rest) := by
  rcases ht with rfl | rfl
  · rw [readDotted, h]
  · rw [readDotted, h]

theorem readDotted_hash {pairs : List (Text × Expr)} {ts rest : List Token}
    (h : readPairs (readExpr count room 0) count ts = .ok (pairs, rest)) :
    readDotted count (room + 2) bound (.leftBrace :: ts) = .ok (.hash pairs, rest) := by
  simp only [readDotted, readHash]
  rw [h]
  rfl

/-! ## Pairs -/

theorem readKey_names {t : Token} {name : Text} (ht : t.Names name) (rest : List Token) :
    readKey (t :: rest) = .ok (name, rest) := by
  rcases ht with rfl | rfl <;> rfl

variable {read : List Token → Except ParseError (Reading Expr)}

/-- A pair with the closing brace after it. -/
theorem readPairs_last {t : Token} {key : Text} (ht : t.Names key) {e : Expr} {ts rest : List Token}
    {n : ℕ} (h : read ts = .ok (e, .rightBrace :: rest)) :
    readPairs read (n + 1) (t :: .colon :: ts) = .ok ([(key, e)], rest) := by
  rw [readPairs, readKey_names ht]
  change (read ts >>= _) = _
  rw [h]
  rfl

/-- A pair with a comma after it. -/
theorem readPairs_comma {t : Token} {key : Text} (ht : t.Names key) {e : Expr}
    {ts rest after : List Token} {pairs : List (Text × Expr)} {n : ℕ}
    (h : read ts = .ok (e, .comma :: rest)) (hrest : readPairs read n rest = .ok (pairs, after)) :
    readPairs read (n + 1) (t :: .colon :: ts) = .ok ((key, e) :: pairs, after) := by
  rw [readPairs, readKey_names ht]
  change (read ts >>= _) = _
  rw [h]
  change (readPairs read n rest >>= _) = _
  rw [hrest]
  rfl

/-! ## Calls -/

theorem readArguments_comma {e : Expr} {ts rest : List Token} {arguments : List Expr} {n : ℕ}
    {after : List Token} (hts : ∀ r, ts ≠ .rightParen :: r) (h : read ts = .ok (e, .comma :: rest))
    (hrest : readArguments read n rest = .ok (arguments, after)) :
    readArguments read (n + 1) ts = .ok (e :: arguments, after) := by
  unfold readArguments
  split
  · exact absurd rfl (hts _)
  · rw [h]
    change (readArguments read n rest >>= _) = _
    rw [hrest]
    rfl

theorem readArguments_last {e : Expr} {ts rest : List Token} {n : ℕ}
    (hts : ∀ r, ts ≠ .rightParen :: r) (h : read ts = .ok (e, .rightParen :: rest)) :
    readArguments read (n + 2) ts = .ok ([e], rest) := by
  unfold readArguments
  split
  · exact absurd rfl (hts _)
  · rw [h]
    rfl

/-- A function's name with its arguments in parentheses. -/
theorem readStep_call {name : Text} {arguments : List Expr} {ts rest : List Token}
    (h : readArguments (readExpr count room 0) count ts = .ok (arguments, rest)) :
    readStep count (room + 1) (.field name) (.leftParen :: ts) =
      .ok (.call name arguments, rest) := by
  simp only [readStep]
  rw [h]
  rfl

theorem readExpr_call {name : Text} {arguments : List Expr} {ts rest : List Token}
    (hcount : 0 < count)
    (h : readArguments (readExpr count room 0) count ts = .ok (arguments, rest))
    (hbound : bound < 60) (hrest : power rest ≤ bound) :
    readExpr count (room + 2) bound (.name name :: .leftParen :: ts) =
      .ok (.call name arguments, rest) := by
  obtain ⟨n, rfl⟩ : ∃ n, count = n + 1 := ⟨count - 1, by omega⟩
  have hhead : readHead (n + 1) (room + 1) (.name name :: .leftParen :: ts) =
      .ok (.field name, .leftParen :: ts) := by
    simp [readHead]
  have hpower : bound < power (.leftParen :: ts) := hbound
  rw [readExpr_of_readHead hhead, extend_of_lt_power hpower (readStep_call h),
    extend_of_power_le hrest]

/-! ## Pipes -/

/-- Tokens that are read as `e` when a pipe mark or the end follows them: the reader has reached `e`
before it looks at what follows. -/
def Starts (ts : List Token) (e : Expr) : Prop :=
  ∀ {count room bound : ℕ} {rest : List Token}, ts.length ≤ count → bound ≤ 1 → power rest ≤ 1 →
    ∃ n, count ≤ n + ts.length ∧
      readExpr count (room + 11) bound (ts ++ rest) =
        extend (readStep count (room + 10)) bound n e rest

/-- Tokens that the reader takes as a head alone. -/
theorem starts_of_readHead {ts : List Token} {e : Expr}
    (h : ∀ {count room : ℕ} {rest : List Token}, ts.length ≤ count → power rest ≤ 1 →
      readHead count (room + 10) (ts ++ rest) = .ok (e, rest)) : Starts ts e :=
  fun hcount _ hrest => ⟨_, Nat.le_add_right _ _, readExpr_of_readHead (h hcount hrest)⟩

/-- The tokens of a function's name with its arguments in parentheses. -/
theorem starts_of_call {name : Text} {ts : List Token} {arguments : List Expr}
    (h : ∀ {count room : ℕ} {rest : List Token}, ts.length ≤ count →
      readArguments (readExpr count (room + 9) 0) count (ts ++ rest) = .ok (arguments, rest)) :
    Starts (.name name :: .leftParen :: ts) (.call name arguments) := by
  intro count room bound rest hcount hbound hrest
  simp only [List.length_cons] at hcount ⊢
  obtain ⟨n, rfl⟩ : ∃ n, count = n + 1 := ⟨count - 1, by omega⟩
  have hstep : readStep (n + 1) (room + 10) (.field name) (.leftParen :: (ts ++ rest)) =
      .ok (.call name arguments, rest) := readStep_call (h (by omega))
  have hhead : readHead (n + 1) (room + 10) (.name name :: .leftParen :: (ts ++ rest)) =
      .ok (.field name, .leftParen :: (ts ++ rest)) := by
    simp [readHead]
  have hpower : bound < power (.leftParen :: (ts ++ rest)) :=
    lt_of_le_of_lt hbound (by decide : 1 < 60)
  refine ⟨n, by omega, ?_⟩
  rw [List.cons_append, List.cons_append, readExpr_of_readHead hhead,
    extend_of_lt_power hpower hstep]

/-- The tokens of stages with a pipe mark before each. -/
def piped (stages : List (List Token)) : List Token := stages.flatMap (.pipe :: ·)

theorem power_piped (stages : List (List Token)) : power (piped stages) ≤ 1 := by
  cases stages with
  | nil => exact Nat.zero_le 1
  | cons => exact le_refl 1

theorem extend_piped {stages : List (List Token)} {es : List Expr}
    (h : List.Forall₂ Starts stages es) {left : Expr} {n : ℕ}
    (hcount : (piped stages).length ≤ count)
    (hn : (piped stages).length ≤ n) :
    extend (readStep count (room + 12)) 0 n left (piped stages) =
      .ok (es.foldl .pipe left, []) := by
  induction h generalizing left n with
  | nil => exact extend_of_power_le (Nat.zero_le 0)
  | @cons ts e stages es hstage _ ih =>
      have hlen : (piped (ts :: stages)).length = ts.length + 1 + (piped stages).length := by
        simp only [piped, List.flatMap_cons, List.length_append, List.length_cons]
      rw [hlen] at hcount hn
      obtain ⟨n, rfl⟩ : ∃ m, n = m + 1 := ⟨n - 1, by omega⟩
      obtain ⟨k, -, hread⟩ := @hstage count room 1 _ (by omega) le_rfl (power_piped stages)
      rw [extend_of_power_le (power_piped stages)] at hread
      have hstep : readStep count (room + 12) left (.pipe :: (ts ++ piped stages)) =
          .ok (.pipe left e, piped stages) := by
        simp only [readStep]
        change (readExpr count (room + 11) 1 (ts ++ piped stages) >>= _) = _
        rw [hread]
        rfl
      change extend _ 0 (n + 1) left (.pipe :: (ts ++ piped stages)) = _
      rw [extend_of_lt_power (by decide : 0 < 1) hstep, ih (by omega) (by omega)]
      rfl

/-- **Stages with pipe marks between them are read as the pipe of the stages.** -/
theorem ofTokens_pipeline [Limits] {ts : List Token} {e : Expr} {stages : List (List Token)}
    {es : List Expr} (hhead : Starts ts e) (h : List.Forall₂ Starts stages es) :
    ofTokens (ts ++ piped stages) = .ok (es.foldl .pipe e) := by
  -- there is more room than one stage takes
  obtain ⟨room, hroom⟩ := Nat.exists_eq_add_of_le Limits.queryPlaces_ge
  have hplaces : Limits.queryPlaces = room + 21 + 11 := by omega
  obtain ⟨n, hn, hread⟩ := @hhead (ts ++ piped stages).length (room + 21) 0 _ (by simp) (by decide)
    (power_piped stages)
  rw [List.length_append] at hn
  rw [ofTokens, hplaces, hread]
  change (extend (readStep _ (room + 19 + 12)) 0 n e _ >>= _) = _
  rw [extend_piped h (by simp) (by omega)]
  rfl

end Winnow.Expr
