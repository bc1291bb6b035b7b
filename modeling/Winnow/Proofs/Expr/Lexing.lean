import Mathlib
import Winnow.Expr.Token

/-!
# Lexing

What the tokens of a text are, one token after the other.

* `tokens_of_nextToken`, `tokens_of_isSpace` — the tokens of a text by its head, without any bound.
* `Lexes` — tokens that are taken off the front of a text, with what is left; `Lexes.tokens_eq` says
  what they are among all tokens of the text.
* `Enclosed` — texts that stand between two marks without ending early.
* `readUntil_append` — such a text is read up to its closing mark.
* `unescapeMark_escape` — a mark that is escaped is that mark again.
-/

namespace Winnow.Expr

/-! ## Every token takes something off a text -/

theorem length_readUntil {mark : CodePoint} {s body rest : List CodePoint}
    (h : readUntil mark s = some (body, rest)) : rest.length ≤ s.length := by
  fun_induction readUntil mark s generalizing body with
  | case1 => cases h
  | case2 c s ih =>
      obtain ⟨⟨b, r⟩, hread, heq⟩ := Option.map_eq_some_iff.1 h
      obtain ⟨-, rfl⟩ := Prod.mk.inj heq
      have := ih hread
      simp only [List.length_cons]
      omega
  | case3 s =>
      obtain ⟨-, rfl⟩ := Prod.mk.inj (Option.some.inj h)
      simp
  | case4 => cases h
  | case5 c s _ _ _ ih =>
      obtain ⟨⟨b, r⟩, hread, heq⟩ := Option.map_eq_some_iff.1 h
      obtain ⟨-, rfl⟩ := Prod.mk.inj heq
      have := ih hread
      simp only [List.length_cons]
      omega

theorem length_delimited {mark : CodePoint} {make : List CodePoint → Except TokenError Token}
    {s rest : List CodePoint} {t : Token} (h : delimited mark s make = .ok (t, rest)) :
    rest.length ≤ s.length := by
  unfold delimited at h
  split at h
  · cases h
  · next body r hread =>
      cases hmake : make body with
      | error e =>
          rw [hmake] at h
          cases h
      | ok token =>
          rw [hmake] at h
          obtain ⟨-, rfl⟩ := Prod.mk.inj (Except.ok.inj h)
          exact length_readUntil hread

theorem rest_of_numberToken {negative : Bool} {digits s rest : List CodePoint} {t : Token}
    (h : numberToken negative digits s = .ok (t, rest)) : rest = s := by
  unfold numberToken at h
  split_ifs at h
  split at h
  · exact (Prod.mk.inj (Except.ok.inj h)).2.symm
  · cases h

section

variable [Limits]

theorem length_nextToken {c : CodePoint} {s rest : List CodePoint} {t : Token}
    (h : nextToken c s = .ok (t, rest)) : rest.length ≤ s.length := by
  unfold nextToken at h
  split_ifs at h with hname hdigit
  · obtain ⟨-, rfl⟩ := Prod.mk.inj (Except.ok.inj h)
    exact List.length_dropWhile_le _ _
  · rw [rest_of_numberToken h]
    exact List.length_dropWhile_le _ _
  · split at h
    case h_25 =>
      rw [rest_of_numberToken h]
      exact List.length_dropWhile_le _ _
    case h_26 => exact length_delimited h
    case h_27 => exact length_delimited h
    case h_28 => exact length_delimited h
    case h_29 => cases h
    all_goals
      obtain ⟨-, rfl⟩ := Prod.mk.inj (Except.ok.inj h)
      simp

/-- The bound on the number of tokens does not matter, as long as it is large enough. -/
theorem tokensFrom_eq {n m : ℕ} {s : List CodePoint} (hn : s.length ≤ n) (hm : s.length ≤ m) :
    tokensFrom n s = tokensFrom m s := by
  induction n generalizing m s with
  | zero =>
      obtain rfl := List.length_eq_zero_iff.1 (Nat.le_zero.1 hn)
      simp [tokensFrom]
  | succ n ih =>
      cases s with
      | nil => simp [tokensFrom]
      | cons c s =>
          cases m with
          | zero => exact absurd hm (Nat.not_succ_le_zero _)
          | succ m =>
              have hn' : s.length ≤ n := Nat.le_of_succ_le_succ hn
              have hm' : s.length ≤ m := Nat.le_of_succ_le_succ hm
              rw [tokensFrom, tokensFrom]
              split_ifs with hspace
              · exact ih hn' hm'
              · cases hnext : nextToken c s with
                | error e => rfl
                | ok p =>
                    obtain ⟨t, rest⟩ := p
                    have hlen := length_nextToken hnext
                    have := @ih m rest (hlen.trans hn') (hlen.trans hm')
                    change (tokensFrom n rest >>= _) = (tokensFrom m rest >>= _)
                    rw [this]

theorem tokens_of_isSpace {c : CodePoint} (hc : Json.isSpace c = true) (s : List CodePoint) :
    tokens (c :: s) = tokens s := by
  rw [tokens, List.length_cons, tokensFrom, if_pos hc]
  rfl

theorem tokens_of_nextToken {c : CodePoint} {s rest : List CodePoint} {t : Token}
    (hc : Json.isSpace c = false) (h : nextToken c s = .ok (t, rest)) :
    tokens (c :: s) = (t :: ·) <$> tokens rest := by
  rw [tokens, List.length_cons, tokensFrom, if_neg (by simp [hc]), h]
  change (tokensFrom s.length rest >>= fun others => pure (t :: others)) = _
  rw [tokensFrom_eq (length_nextToken h) le_rfl]
  rfl

/-! ## Tokens off the front of a text -/

/-- The tokens `ts`, without blank space between them, are taken off the front of a text one after
the other, and `rest` is left. Nothing is said of `rest`, which may have no tokens. -/
inductive Lexes : List CodePoint → List Token → List CodePoint → Prop
  | nil (rest : List CodePoint) : Lexes rest [] rest
  | cons {c : CodePoint} {s s' rest : List CodePoint} {t : Token} {ts : List Token}
      (hc : Json.isSpace c = false) (h : nextToken c s = .ok (t, s')) (hs : Lexes s' ts rest) :
      Lexes (c :: s) (t :: ts) rest

theorem Lexes.append {s s' rest : List CodePoint} {ts us : List Token} (h : Lexes s ts s')
    (h' : Lexes s' us rest) : Lexes s (ts ++ us) rest := by
  induction h with
  | nil => exact h'
  | cons hc hnext _ ih => exact .cons hc hnext (ih h')

/-- Tokens that are taken off the front of a text come before the tokens of what is left. -/
theorem Lexes.tokens_eq {s rest : List CodePoint} {ts : List Token} (h : Lexes s ts rest) :
    tokens s = (ts ++ ·) <$> tokens rest := by
  induction h with
  | nil rest => cases tokens rest <;> rfl
  | @cons _ _ _ rest _ _ hc hnext _ ih =>
      rw [tokens_of_nextToken hc hnext, ih]
      cases tokens rest <;> rfl

end

/-! ## Delimited texts -/

/-- A text that stands in front of a mark without ending early: every backslash takes the character
after it along, and no other character is the mark. -/
inductive Enclosed (mark : CodePoint) : List CodePoint → Prop
  | nil : Enclosed mark []
  | plain {c : CodePoint} {s : List CodePoint} (hmark : c ≠ mark) (hslash : c ≠ '\\')
      (h : Enclosed mark s) :
      Enclosed mark (c :: s)
  | pair (c : CodePoint) {s : List CodePoint} (h : Enclosed mark s) : Enclosed mark
      (.char '\\' :: c :: s)

theorem Enclosed.append {mark : CodePoint} {a b : List CodePoint} (ha : Enclosed mark a)
    (hb : Enclosed mark b) : Enclosed mark (a ++ b) := by
  induction ha with
  | nil => exact hb
  | plain hmark hslash _ ih => exact .plain hmark hslash ih
  | pair c _ ih => exact .pair c ih

theorem Enclosed.flatMap {mark : CodePoint} {f : CodePoint → List CodePoint}
    (h : ∀ c, Enclosed mark (f c))
    (s : List CodePoint) : Enclosed mark (s.flatMap f) := by
  induction s with
  | nil => exact .nil
  | cons c s ih => exact (h c).append ih

theorem Enclosed.of_forall {mark : CodePoint} {s : List CodePoint}
    (h : ∀ c ∈ s, c ≠ mark ∧ c ≠ '\\') :
    Enclosed mark s := by
  induction s with
  | nil => exact .nil
  | cons c s ih =>
      obtain ⟨hmark, hslash⟩ := h c List.mem_cons_self
      exact .plain hmark hslash (ih fun x hx => h x (List.mem_cons_of_mem _ hx))

/-- A text that is enclosed is read up to its closing mark. -/
theorem readUntil_append {mark : CodePoint} (hmark : mark ≠ '\\') {body : List CodePoint}
    (h : Enclosed mark body) (rest : List CodePoint) :
    readUntil mark (body ++ mark :: rest) = some (body, rest) := by
  induction h with
  | nil =>
      rw [List.nil_append, readUntil.eq_3 _ _ _ (fun _ _ h _ => hmark h), if_pos rfl]
  | plain hne hslash _ ih =>
      rw [List.cons_append, readUntil.eq_3 _ _ _ (fun _ _ h _ => hslash h), if_neg hne,
        if_neg hslash, ih]
      rfl
  | pair c _ ih =>
      rw [List.cons_append, List.cons_append, readUntil, ih]
      rfl

theorem nextToken_of_delimited {mark : CodePoint} {body rest : List CodePoint} {t : Token}
    {make : List CodePoint → Except TokenError Token} (hmark : mark ≠ '\\') (h : Enclosed mark body)
    (hmake : make body = .ok t) : delimited mark (body ++ mark :: rest) make = .ok (t, rest) := by
  rw [delimited, readUntil_append hmark h]
  simp only [hmake]
  rfl

/-! ## Escaped marks -/

/-- A text in which every mark has a backslash before it. -/
def escapeMark (mark : CodePoint) (s : List CodePoint) : List CodePoint :=
  s.flatMap fun c => if c = mark then ['\\', mark] else [c]

theorem head_escapeMark {mark : CodePoint} (hmark : mark ≠ '\\') (s : List CodePoint) :
    (escapeMark mark s).head? ≠ some mark := by
  cases s with
  | nil => simp [escapeMark]
  | cons c s =>
      rw [escapeMark, List.flatMap_cons]
      split_ifs with h
      · simpa using hmark.symm
      · simpa using h

/-- A mark that was escaped is that mark again. -/
theorem unescapeMark_escapeMark {mark : CodePoint} (hmark : mark ≠ '\\') (s : List CodePoint) :
    unescapeMark mark (escapeMark mark s) = s := by
  induction s with
  | nil => rfl
  | cons c s ih =>
      have hhead := head_escapeMark hmark s
      rw [escapeMark, List.flatMap_cons]
      change unescapeMark mark (_ ++ escapeMark mark s) = _
      split_ifs with h
      · subst h
        rw [List.cons_append, List.cons_append, unescapeMark, if_pos (by simp), unescapeMark,
          if_neg (by simp [hmark]), List.nil_append, ih]
      · rw [List.cons_append, List.nil_append, unescapeMark, if_neg (by simp [hhead]), ih]

end Winnow.Expr
