import Winnow.Proofs.Spec.Classification
import Winnow.Proofs.Spec.Lexemes

/-!
# Literals are read back

A scalar in a query is JSON text with its ticks escaped, between two ticks. What is escaped for the
JSON text stays so when the ticks are bare again, whatever runs of backslashes are in it, so the
lexer ends where the literal does, and JSON is read without a second attempt.

* `Scalar.document`, `written_eq_document` — the document that a scalar is.
* `not_isUndefined_operand` — what a scalar is compared as, too.
* `lex_renderLiteral` — a literal before any text.
-/

namespace Winnow

open Winnow.Expr (Token tokens)

/-! ## Scalars as documents -/

/-- The document that a scalar is. -/
def Scalar.document : Scalar → Json.Document
  | .null => .null
  | .bool b => .bool b
  | .number n => .number n
  | .text s => .text s

/-- Whether a scalar is the outcome of a computation that is not a number, which no text denotes. -/
def Scalar.IsUndefined (v : Scalar) : Prop := ∃ origin, v = .number (.undefined origin)

/-- A scalar is written as the document that it is. -/
theorem written_eq_document {v : Scalar} (h : ¬v.IsUndefined) : v.written = v.document := by
  cases v with
  | number n =>
      cases n with
      | undefined origin => exact absurd ⟨origin, rfl⟩ h
      | _ => rfl
  | _ => rfl

/-- No text spells what no text denotes. -/
theorem not_isUndefined_of_classify {text : Text} {v : Scalar} (h : Scalar.classify text = .ok v) :
    ¬v.IsUndefined := by
  rintro ⟨origin, rfl⟩
  rcases spells_or_eq_of_classify h with hspells | hself
  · generalize Text.trimL text.toList = core at hspells
    cases hspells
  · cases hself

/-- A scalar that a text denotes is compared as such a scalar. -/
theorem not_isUndefined_operand {v operand : Scalar} (h : v.operand = .ok operand)
    (hv : ¬v.IsUndefined) : ¬operand.IsUndefined := by
  cases v with
  | text s => exact not_isUndefined_of_classify h
  | _ =>
      obtain rfl := Except.ok.inj h
      exact hv

/-! ## Literals -/

/-- **A literal before any text.** The literal of a scalar is a body between two ticks, and the
lexer reads it up to the second of them, whatever text comes after it. The body with its ticks bare
again is JSON text, so there is no second attempt, and its value is the scalar, or what the scalar
spells if it is a text. -/
theorem lex_renderLiteral [Limits] {v : Scalar} {text : List CodePoint}
    (h : renderLiteral v = .ok text) :
    ∃ operand body, (∀ s, v = .text s → Scalar.classify s = .ok operand) ∧
      ((∀ s, v ≠ .text s) → operand = v) ∧ text = .char '\x60' :: body ++ [.char '\x60'] ∧
      (¬v.IsUndefined → operand.written = operand.document) ∧
      Json.readL Limits.literalLevels (Expr.unescapeMark '\x60' body) = .ok operand.written ∧
      ∀ rest, Expr.readUntil '\x60' (body ++ .char '\x60' :: rest) = some (body, rest) ∧
        Expr.nextToken '\x60' (body ++ .char '\x60' :: rest) =
          .ok (.literal operand.written, rest) ∧
        tokens (text ++ rest) = (Token.literal operand.written :: ·) <$> tokens rest := by
  obtain ⟨operand, body, hoperand, rfl, hbody, hread⟩ := exists_body_of_renderLiteral h
  refine ⟨operand, body, ?_, ?_, rfl,
    fun hv => written_eq_document (not_isUndefined_operand hoperand hv), hread, fun rest => ?_⟩
  · rintro s rfl
    exact hoperand
  · intro hv
    cases v with
    | text s => exact absurd rfl (hv s)
    | _ => exact (Except.ok.inj hoperand).symm
  · have hnext := nextToken_literal hbody hread rest
    refine ⟨Expr.readUntil_append (by decide) hbody rest, hnext, ?_⟩
    rw [List.append_assoc]
    exact Expr.tokens_of_nextToken rfl hnext

/-- A text with backslashes and a tick in it, and its literal: the backslashes are escaped once, for
the JSON text, and the tick once more. -/
theorem lex_renderLiteral_slashes :
    letI := Limits.ordinary
    let v := Scalar.text "a\\\x60\\"
    let body := Text.toList "\"a\\\\\\\x60\\\\\""
    renderLiteral v = .ok (.char '\x60' :: body ++ [.char '\x60']) ∧
      Expr.nextToken '\x60' (body ++ [.char '\x60', .char '\x60']) =
        .ok (.literal (.text "a\\\x60\\"), [.char '\x60']) := by
  let limits := Limits.ordinary
  intro v body
  have h : renderLiteral v = .ok (.char '\x60' :: body ++ [.char '\x60']) := by decide +kernel
  have hself : Scalar.classify "a\\\x60\\" = .ok v := by decide +kernel
  obtain ⟨operand, body', hclassify, -, hbody, -, -, hlex⟩ := lex_renderLiteral h
  obtain rfl := Except.ok.inj (hself.symm.trans (hclassify _ rfl))
  obtain rfl : body = body' := List.append_cancel_right (List.cons.inj hbody).2
  exact ⟨h, (hlex [.char '\x60']).2.1⟩

end Winnow
