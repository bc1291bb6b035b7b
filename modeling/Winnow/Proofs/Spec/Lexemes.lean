import Winnow.Proofs.Expr.Lexing
import Winnow.Proofs.Json.Documents
import Winnow.Proofs.Number.Characters
import Winnow.Spec.Query

/-!
# The tokens of names, paths and literals

The parts of a query text that come from a specification are read back as what they were written
for, whatever stands in them.

* `lexes_renderSegment`, `lexes_renderPath` — names and paths; `tokens_renderSegment`,
  `tokens_renderPath` — the same among all tokens of a text.
* `Scalar.written` — the document that a scalar is.
* `readL_render` — the JSON text of a scalar is read as the scalar.
* `exists_body_of_renderLiteral`, `tokens_renderLiteral` — a literal is one token.
-/

namespace Winnow

open Winnow.Expr (Token tokens Enclosed Lexes)

/-! ## Scalars as JSON text -/

/-- The document that a scalar is written as. -/
def Scalar.written : Scalar → Json.Document
  | .null => .null
  | .bool b => .bool b
  | .number n => .number n.written
  | .text s => .text s

/-- **The JSON text of a scalar is read as the scalar.** -/
theorem readValue_render {v : Scalar} {text rest : List CodePoint} (h : v.render = .ok text)
    (hrest : Json.EndsNumber rest) (depth room : ℕ) :
    Json.readValue (depth + 1) room (text ++ rest) = .ok (v.written, rest) := by
  cases v with
  | null =>
      obtain rfl := Except.ok.inj h
      rfl
  | bool b =>
      cases b <;> obtain rfl := Except.ok.inj h <;> rfl
  | number n => exact Json.readValue_of_readNumber (readNumber_numberWrite h hrest) depth room
  | text s =>
      obtain rfl := Except.ok.inj h
      rw [Json.writeString_eq, Json.readValue, Json.readString_writeString]
      dsimp only
      rw [Text.ofList_toList]
      rfl

theorem readL_render {v : Scalar} {text : List CodePoint} (h : v.render = .ok text) (room : ℕ) :
    Json.readL room text = .ok v.written := by
  have hread := readValue_render h Json.endsNumber_nil (2 * text.length + 1) room
  rw [List.append_nil] at hread
  rw [Json.readL, Json.skipSpace_of_readValue hread, hread]
  rfl

/-- A string that is written alone is read as a text. -/
theorem readL_writeString (room : ℕ) (s : List CodePoint) :
    Json.readL room (Json.writeString false s) = .ok (.text (Text.ofList s)) := by
  have h : (Scalar.text (Text.ofList s)).render = .ok (Json.writeString false s) := by
    rw [Scalar.render, Text.toList_ofList]
  exact readL_render h room

/-! ## Names -/

/-- What follows a bare name does not go on with it. -/
def EndsName (rest : List CodePoint) : Prop := ∀ c ∈ rest.head?, Text.isNameChar c = false

theorem endsName_nil : EndsName [] := fun _ h => nomatch h

theorem endsName_cons {c : CodePoint} (h : Text.isNameChar c = false) (rest : List CodePoint) :
    EndsName (c :: rest) := by
  intro x hx
  obtain rfl := Option.some.inj hx
  exact h

/-- The token of a path segment. -/
def segmentToken (name : Text) : Token :=
  if Text.isBareName name.toList then .name name else .quoted name

theorem not_isSpace_of_isNameStart {c : CodePoint} (h : Text.isNameStart c = true) :
    Json.isSpace c = false := by
  by_contra hspace
  rw [Bool.not_eq_false] at hspace
  rcases Json.eq_of_isSpace hspace with rfl | rfl | rfl | rfl <;> exact absurd h (by decide)

section

variable [Limits]

theorem lexes_bareName {name : List CodePoint} (h : Text.isBareName name = true)
    {rest : List CodePoint}
    (hrest : EndsName rest) : Lexes (name ++ rest) [.name (Text.ofList name)] rest := by
  cases name with
  | nil => cases h
  | cons c cs =>
      obtain ⟨hc, hcs⟩ := Bool.and_eq_true_iff.1 h
      obtain ⟨htake, hdrop⟩ := takeWhile_append_of_all (List.all_eq_true.1 hcs) hrest
      refine .cons (not_isSpace_of_isNameStart hc) ?_ (.nil rest)
      change Expr.nextToken c (cs ++ rest) = _
      unfold Expr.nextToken
      rw [if_pos hc, htake, hdrop]

end

/-! ## Quoted names -/

theorem hexDigits_small : ∀ n : Fin 32,
    (Text.hexDigits 4 n).all (fun c => c != '"' && c != '\x60' && c != '\\') = true := by decide

/-- The digits of a code unit are no marks. -/
theorem enclosed_writeUnit {mark : CodePoint} (hmark : mark = '"' ∨ mark = '\x60') {n : ℕ}
    (hn : n < 0x20) : Enclosed mark (Json.writeUnit n) := by
  refine .pair 'u' (.of_forall fun c hc => ?_)
  have h := List.all_eq_true.1 (hexDigits_small ⟨n, hn⟩) c hc
  simp only [Bool.and_eq_true, bne_iff_ne] at h
  obtain ⟨⟨h1, h2⟩, hslash⟩ := h
  rcases hmark with rfl | rfl
  · exact ⟨h1, hslash⟩
  · exact ⟨h2, hslash⟩

theorem enclosed_writeChar (c : CodePoint) : Enclosed '"' (Json.writeChar false c) := by
  rcases Json.writeChar_cases c with ⟨e, d, h, -, -, -⟩ | ⟨h, hn⟩ | ⟨h, -, hquote, hslash⟩
  · rw [h]
    exact .pair e .nil
  · rw [h]
    exact enclosed_writeUnit (Or.inl rfl) hn
  · rw [h]
    exact .plain hquote hslash .nil

section

variable [Limits]

theorem lexes_writeString (s rest : List CodePoint) :
    Lexes (Json.writeString false s ++ rest) [.quoted (Text.ofList s)] rest := by
  rw [Json.writeString_eq]
  refine .cons rfl ?_ (.nil rest)
  refine Expr.nextToken_of_delimited (by decide) (.flatMap enclosed_writeChar s) ?_
  have hread := readL_writeString Limits.literalLevels s
  rw [Json.writeString] at hread
  rw [Expr.quotedName, hread]
  rfl

/-! ## Paths -/

theorem lexes_renderSegment (name : Text) {rest : List CodePoint} (hrest : EndsName rest) :
    Lexes (renderSegment name ++ rest) [segmentToken name] rest := by
  rw [renderSegment, segmentToken]
  split_ifs with hbare
  · have h := lexes_bareName hbare hrest
    rwa [Text.ofList_toList] at h
  · have h := lexes_writeString name.toList rest
    rwa [Text.ofList_toList] at h

/-- The tokens of a path. -/
def pathTokens : FieldPath → List Token
  | [] => [.current]
  | name :: path => segmentToken name :: path.flatMap fun name => [.dot, segmentToken name]

/-- **The tokens of a path are taken off the front of any text that does not go on with a name.** -/
theorem lexes_renderPath (path : FieldPath) {rest : List CodePoint} (hrest : EndsName rest) :
    Lexes (renderPath path ++ rest) (pathTokens path) rest := by
  cases path with
  | nil => exact .cons rfl rfl (.nil rest)
  | cons name path =>
      change Lexes ([.char '.'].intercalate ((name :: path).map renderSegment) ++ rest) _ rest
      induction path generalizing name with
      | nil =>
          rw [List.map_singleton, List.intercalate_singleton]
          exact lexes_renderSegment name hrest
      | cons name' path ih =>
          rw [List.map_cons, List.map_cons, List.intercalate_cons_cons, List.append_assoc,
            List.append_assoc]
          exact (lexes_renderSegment name (endsName_cons rfl _)).append (.cons rfl rfl (ih name'))

/-! ## Names and paths among all tokens -/

theorem tokens_bareName {name : List CodePoint} (h : Text.isBareName name = true)
    {rest : List CodePoint}
    (hrest : EndsName rest) :
    tokens (name ++ rest) = (Token.name (Text.ofList name) :: ·) <$> tokens rest :=
  (lexes_bareName h hrest).tokens_eq

theorem tokens_renderSegment (name : Text) {rest : List CodePoint} (hrest : EndsName rest) :
    tokens (renderSegment name ++ rest) = (segmentToken name :: ·) <$> tokens rest :=
  (lexes_renderSegment name hrest).tokens_eq

/-- **A path is read back as its segments.** -/
theorem tokens_renderPath (path : FieldPath) {rest : List CodePoint} (hrest : EndsName rest) :
    tokens (renderPath path ++ rest) = (pathTokens path ++ ·) <$> tokens rest :=
  (lexes_renderPath path hrest).tokens_eq

end

/-! ## Literals -/

/-- A text in which nothing is escaped and nothing needs to be. -/
def IsPlain (s : List CodePoint) : Prop := ∀ c ∈ s, c ≠ '\x60' ∧ c ≠ '\\'

theorem isPlain_of_all {s : List CodePoint} (h : s.all (fun c => c != '\x60' && c != '\\') = true) :
    IsPlain s := by
  intro c hc
  have := List.all_eq_true.1 h c hc
  simpa only [Bool.and_eq_true, bne_iff_ne] using this

theorem isPlain_numberWrite {n : Number} {text : List CodePoint} (h : n.write = .ok text) :
    IsPlain text := by
  refine (isNumberText_numberWrite h).forall_mem (fun c hc => ?_) (by simp [numberMarks])
  constructor
  · rintro rfl
    cases hc
  · rintro rfl
    cases hc

theorem escapeTicks_eq (s : List CodePoint) : escapeTicks s = Expr.escapeMark '\x60' s := rfl

theorem escapeTicks_of_isPlain {s : List CodePoint} (h : IsPlain s) : escapeTicks s = s := by
  induction s with
  | nil => rfl
  | cons c s ih =>
      rw [escapeTicks, List.flatMap_cons, if_neg (h c List.mem_cons_self).1]
      exact congrArg (c :: ·) (ih fun x hx => h x (List.mem_cons_of_mem _ hx))

theorem enclosed_of_isPlain {s : List CodePoint} (h : IsPlain s) :
    Enclosed '\x60' (escapeTicks s) := by
  rw [escapeTicks_of_isPlain h]
  exact .of_forall h

/-- A character in a string in a literal: escaped once for the string and once for the literal. -/
theorem enclosed_escapeTicks_writeChar (c : CodePoint) :
    Enclosed '\x60' (escapeTicks (Json.writeChar false c)) := by
  rcases Json.writeChar_cases c with ⟨e, d, h, he, -, -⟩ | ⟨h, hn⟩ | ⟨h, -, -, hslash⟩
  · have htick : e ≠ '\x60' := by
      rintro rfl
      cases he
    rw [h, escapeTicks, List.flatMap_cons, if_neg (by decide), List.flatMap_singleton, if_neg htick]
    exact .pair e .nil
  · have hplain : IsPlain (Text.hexDigits 4 c.toNat) := by
      intro x hx
      have h := List.all_eq_true.1 (hexDigits_small ⟨c.toNat, hn⟩) x hx
      simp only [Bool.and_eq_true, bne_iff_ne] at h
      exact ⟨h.1.2, h.2⟩
    rw [h, Json.writeUnit, escapeTicks, List.flatMap_cons, List.flatMap_cons, if_neg (by decide),
      if_neg (by decide)]
    exact .pair 'u' (enclosed_of_isPlain hplain)
  · rw [h, escapeTicks, List.flatMap_singleton]
    split_ifs with htick
    · exact .pair _ .nil
    · exact .plain htick hslash .nil

theorem enclosed_escapeTicks_render {v : Scalar} {text : List CodePoint} (h : v.render = .ok text) :
    Enclosed '\x60' (escapeTicks text) := by
  cases v with
  | null =>
      obtain rfl := Except.ok.inj h
      exact enclosed_of_isPlain (isPlain_of_all (by decide))
  | bool b =>
      cases b <;> obtain rfl := Except.ok.inj h <;>
        exact enclosed_of_isPlain (isPlain_of_all (by decide))
  | number n => exact enclosed_of_isPlain (isPlain_numberWrite h)
  | text s =>
      obtain rfl := Except.ok.inj h
      have hbody : escapeTicks (Json.writeString false s.toList) =
          .char '"' :: (s.toList.flatMap fun c => escapeTicks (Json.writeChar false c)) ++
            [.char '"'] := by
        simp [escapeTicks, Json.writeString, List.flatMap_assoc]
      rw [hbody]
      exact .append (.plain (by decide) (by decide) (.flatMap enclosed_escapeTicks_writeChar _))
        (.plain (by decide) (by decide) .nil)

section

variable [Limits]

/-- A literal stands between two ticks, and its body is JSON text once the ticks in it are bare. -/
theorem exists_body_of_renderLiteral {v : Scalar} {text : List CodePoint}
    (h : renderLiteral v = .ok text) :
    ∃ operand body, v.operand = .ok operand ∧ text = .char '\x60' :: body ++ [.char '\x60'] ∧
      Enclosed '\x60' body ∧
      Json.readL Limits.literalLevels (Expr.unescapeMark '\x60' body) = .ok operand.written := by
  unfold renderLiteral at h
  obtain ⟨operand, hoperand, h⟩ := exists_of_bind_eq_ok h
  obtain ⟨json, hrender, h⟩ := exists_of_bind_eq_ok h
  obtain rfl := Except.ok.inj h
  refine ⟨operand, escapeTicks json, hoperand, rfl, enclosed_escapeTicks_render hrender, ?_⟩
  rw [escapeTicks_eq, Expr.unescapeMark_escapeMark (by decide), readL_render hrender]

theorem nextToken_literal {body : List CodePoint} {value : Json.Document}
    (hbody : Enclosed '\x60' body)
    (hread : Json.readL Limits.literalLevels (Expr.unescapeMark '\x60' body) = .ok value)
    (rest : List CodePoint) :
    Expr.nextToken '\x60' (body ++ .char '\x60' :: rest) = .ok (.literal value, rest) := by
  refine Expr.nextToken_of_delimited (by decide) hbody ?_
  rw [Expr.literalValue, hread]
  rfl

/-- **A literal is read back as one token.** -/
theorem tokens_renderLiteral {v : Scalar} {text : List CodePoint} (h : renderLiteral v = .ok text)
    (rest : List CodePoint) :
    ∃ operand, v.operand = .ok operand ∧
      tokens (text ++ rest) = (Token.literal operand.written :: ·) <$> tokens rest := by
  obtain ⟨operand, body, hoperand, rfl, hbody, hread⟩ := exists_body_of_renderLiteral h
  refine ⟨operand, hoperand, ?_⟩
  rw [List.append_assoc]
  exact Expr.tokens_of_nextToken rfl (nextToken_literal hbody hread rest)

end

end Winnow
