import Winnow.Proofs.Spec.Values

/-!
# Paths are read back

A path in a query is its segments with dots between them, each a bare name or a name in quotes.
Whatever stands in the segments, none runs into the next or into what follows the path, so the text
of a path says which path it is, and as a query it leads to the value at the path.

* `parse_renderPath`, `search_renderPath` — a path that is the whole query.
* `Token.name?`, `filterMap_name?_of_isPath` — the segments that the tokens of a path name.
* `renderPath_injective` — the text of a path is that of no other path.
* `lex_renderPath` — all of this for one path, and the path before other text.
-/

namespace Winnow

open Winnow.Expr (Token tokens Lexes IsPath chain fieldsOf)
open Winnow.Expr.Item (ofDocument)

/-! ## Paths as queries -/

section

variable [Limits]

theorem ofTokens_pathTokens (path : FieldPath) :
    Expr.ofTokens (pathTokens path) = .ok (chain path) := by
  obtain ⟨room, hroom⟩ := Nat.exists_eq_add_of_le Limits.queryPlaces_ge
  have hplaces : Limits.queryPlaces = room + 27 + 5 := by omega
  have hread : Expr.readExpr (pathTokens path).length (room + 27 + 5) 0 (pathTokens path ++ []) =
      .ok (chain path, []) :=
    Expr.readExpr_chain (isPath_pathTokens path) le_rfl (by decide) (Nat.zero_le 0)
  rw [List.append_nil] at hread
  rw [Expr.ofTokens, hplaces, hread]
  rfl

theorem tokens_renderPath_nil (path : FieldPath) :
    tokens (renderPath path) = .ok (pathTokens path) := by
  have h := tokens_renderPath path endsName_nil
  rw [List.append_nil] at h
  rw [h]
  change Except.ok (pathTokens path ++ []) = _
  rw [List.append_nil]

/-- The text of a path is read as its chain of lookups. -/
theorem parse_renderPath (path : FieldPath) :
    Expr.parse (Text.ofList (renderPath path)) = .ok (chain path) := by
  rw [Expr.parse, Text.toList_ofList]
  exact parseL_of_ofTokens (tokens_renderPath_nil path) (ofTokens_pathTokens path)

/-- A path as a query leads from any value to the value at the path. -/
theorem search_renderPath (path : FieldPath) (v : Item) :
    Expr.search (Text.ofList (renderPath path)) v = .ok (fieldsOf path v) := by
  rw [Expr.search, parse_renderPath]
  dsimp only
  rw [Expr.eval_of_computes (Expr.computes_chain path) (by decide)]
  rfl

end

/-! ## Different paths -/

/-- The name that a token is, bare or in quotes. -/
def Expr.Token.name? : Token → Option Text
  | .name s => some s
  | .quoted s => some s
  | _ => none

theorem name?_of_names {t : Token} {name : Text} (h : t.Names name) : t.name? = some name := by
  rcases h with rfl | rfl <;> rfl

theorem filterMap_name?_of_dotted {names : List Text} {ts : List Token} (h : Expr.Dotted names ts) :
    ts.filterMap Token.name? = names := by
  induction h with
  | nil => rfl
  | cons ht _ ih =>
      rw [List.filterMap_cons_none rfl, List.filterMap_cons_some (name?_of_names ht), ih]

/-- The names among the tokens of a path are its segments. -/
theorem filterMap_name?_of_isPath {path : FieldPath} {ts : List Token} (h : IsPath path ts) :
    ts.filterMap Token.name? = path := by
  cases h with
  | current => rfl
  | names ht h =>
      rw [List.filterMap_cons_some (name?_of_names ht), filterMap_name?_of_dotted h]

/-- The text of a path is that of no other path. -/
theorem renderPath_injective : Function.Injective renderPath := by
  intro path other h
  have htokens : pathTokens path = pathTokens other := by
    let limits := Limits.ordinary
    have hread := tokens_renderPath_nil path
    rw [h, tokens_renderPath_nil] at hread
    exact (Except.ok.inj hread).symm
  calc path
    _ = (pathTokens path).filterMap Token.name? :=
        (filterMap_name?_of_isPath (isPath_pathTokens path)).symm
    _ = (pathTokens other).filterMap Token.name? := by rw [htokens]
    _ = other := filterMap_name?_of_isPath (isPath_pathTokens other)

/-! ## Reading back -/

/-- **A path is read back as that path.** The tokens of a path are the names of its segments, bare
or in quotes, with dots between them, or the mark of the current item if it has none. Before any
text that does not go on with a name, as at the end and before a blank, a comma or a closing mark,
the lexer takes just these tokens off and leaves that text. As a query the path leads from every
document to the value at the path: from key to key, and to null where there is no object or no such
key. No other path has the same text. -/
theorem lex_renderPath [Limits] (path : FieldPath) :
    IsPath path (pathTokens path) ∧
      (∀ rest, EndsName rest → Lexes (renderPath path ++ rest) (pathTokens path) rest ∧
        tokens (renderPath path ++ rest) = (pathTokens path ++ ·) <$> tokens rest) ∧
      (∀ d, Language.jmesPath.search (Text.ofList (renderPath path)) (ofDocument d) =
        .ok (ofDocument (d.atPath path))) ∧
      ∀ other, renderPath other = renderPath path → other = path := by
  refine ⟨isPath_pathTokens path, fun rest hrest => ?_, fun d => ?_, fun other h => ?_⟩
  · exact ⟨lexes_renderPath path hrest, tokens_renderPath path hrest⟩
  · rw [← fieldsOf_ofDocument]
    exact search_renderPath path (ofDocument d)
  · exact renderPath_injective h

/-- A path with an empty segment, and with dots, quotes and other marks in its segments. -/
def markedPath : FieldPath := ["user", "", "a.b", "\"@\\"]

/-- A document with a value at the path. -/
def markedDocument : Json.Document :=
  .object [("user", .object [("", .object [("a.b", .object [("\"@\\", .text "here")])])])]

/-- The path before a bracket with a tick after it, which starts no token, and as a query. -/
theorem lex_renderPath_marked :
    letI := Limits.ordinary
    let text := Text.toList "user.\"\".\"a.b\".\"\\\"@\\\\\""
    Lexes (text ++ [.char ']', .char '\x60'])
        [.name "user", .dot, .quoted "", .dot, .quoted "a.b", .dot, .quoted "\"@\\"]
        [.char ']', .char '\x60'] ∧
      Language.jmesPath.search (Text.ofList text) (ofDocument markedDocument) =
        .ok (.text "here") := by
  let limits := Limits.ordinary
  intro text
  have htext : renderPath markedPath = text := by decide +kernel
  obtain ⟨-, hlex, hsearch, -⟩ := lex_renderPath markedPath
  rw [htext] at hlex hsearch
  exact ⟨(hlex [.char ']', .char '\x60'] (endsName_cons rfl _)).1, hsearch markedDocument⟩

end Winnow
