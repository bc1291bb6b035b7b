import Winnow.Proofs.Json.Split
import Winnow.Proofs.Output.Accord

/-!
# The text of a result is read back

The text of a result is the line of the query and the JSON text of the value, line by line. What
comes after the first line is JSON text of the value again, unless the value was cut inside of a
string.

* `QueryResult.text_of_write` — the text of a result with the JSON text of its value.
* `exists_text_document` — the text of a result that is a document.
* `shown_cases` — there is no text, or the text is read back, or it is no JSON text.
-/

namespace Winnow

open Winnow.Json (Document Layout)
open Winnow.Expr.Item (ofDocument Unwritable)
open Winnow.Text (feedLines)

section

variable [Limits]

/-- The lines of the JSON text follow the line of the query. -/
theorem QueryResult.text_of_write {result : QueryResult} {indent : ℕ} {json : Text}
    (h : Json.write (.indented .console indent) result.value = .ok json)
    (hlines : Text.splitLines json ≠ []) :
    result.text indent =
      .ok ("Query: " ++ result.query ++ "\n" ++ Text.intercalate "\n" (Text.splitLines json) ++
        "\n") := by
  rw [text, lines, h, ok_bind]
  change Except.ok _ = Except.ok _
  rw [Text.intercalate_cons_of_ne_nil hlines]

/-- **The text of a result that is a document**, unless it has none: the line of the query, and the
JSON text with line feeds for its line ends. -/
theorem exists_text_document {d : Document} (hd : d.IsProper) (query : Text) {indent : ℕ}
    (hwritable : ¬Unwritable .console indent (ofDocument d)) :
    ∃ json, Json.write (Layout.indented .console indent).ofDocuments d = .ok json ∧
      Text.intercalate "\n" (Text.splitLines json) = Text.ofList (feedLines json.toList) ∧
      (⟨query, ofDocument d⟩ : QueryResult).text indent =
        .ok ("Query: " ++ query ++ "\n" ++ Text.ofList (feedLines json.toList) ++ "\n") := by
  obtain ⟨json, hjson⟩ : ∃ json,
    Json.write (.indented .console indent) (ofDocument d) = .ok json := by
    rw [← Json.exists_write_error_iff, exists_error_iff, not_not] at hwritable
    exact hwritable
  have hwrite : Json.write (Layout.indented .console indent).ofDocuments d = .ok json := by
    rw [← write_ofDocument hd, hjson]
  obtain ⟨s, hs, rfl⟩ := Json.exists_writeValue_of_write hwrite
  obtain ⟨c, t, rfl, -⟩ := Json.exists_head_of_writeValue hs
  have hjoined : Text.intercalate "\n" (Text.splitLines (Text.ofList (c :: t))) =
      Text.ofList (feedLines (Text.ofList (c :: t)).toList) := by
    refine Text.intercalate_splitLines ?_ ?_ <;> rw [Text.toList_ofList]
    · exact Json.carriageReturn_notMem_writeValue (Layout.isIndented_ofDocuments _ indent) hd hs
    · exact Json.not_isLineEnd_of_mem_getLast? hs
  have hlines : Text.splitLines (Text.ofList (c :: t)) ≠ [] := by
    rw [Text.splitLines, Text.splitLinesL, Text.toList_ofList, ne_eq, List.map_eq_nil_iff]
    exact Text.splitLinesFrom_ne_nil [] (List.cons_ne_nil c t)
  refine ⟨_, hwrite, hjoined, ?_⟩
  rw [QueryResult.text_of_write hjson hlines, hjoined]

/-- **What is shown of a document.** Unless the document cannot be written, its text is the line of
the query and a text that is read, where there is room for the levels of the document, as the
document if no separator stands in it, and else is no JSON text. The lines after the first, joined
by line feeds, are that text. -/
theorem shown_cases {d : Document} (hd : d.IsProper) {query : Text} (hquery : Text.IsLine query)
    (indent : ℕ) :
    (Unwritable .console indent (ofDocument d) ∧
        ∃ e, (⟨query, ofDocument d⟩ : QueryResult).text indent = .error e) ∨
      ∃ text json, (⟨query, ofDocument d⟩ : QueryResult).text indent = .ok text ∧
        text = "Query: " ++ query ++ "\n" ++ json ++ "\n" ∧
        Text.intercalate "\n" (Text.splitLines text).tail = json ∧
        ∀ room, d.levels ≤ room →
          (¬d.Splits → Json.readL room json.toList = .ok d.written) ∧
            (d.Splits → Json.readL room json.toList = .error .malformed) := by
  by_cases hwritable : Unwritable .console indent (ofDocument d)
  · exact .inl ⟨hwritable, QueryResult.exists_text_error_iff.2 hwritable⟩
  · right
    obtain ⟨json, hjson, hjoined, htext⟩ := exists_text_document hd query hwritable
    refine ⟨_, _, htext, rfl, ?_, fun room hroom =>
      Json.readL_feedLines (Layout.isIndented_ofDocuments _ indent) hd hjson hroom⟩
    obtain ⟨json', hjson', hlines⟩ := splitLines_text htext
    obtain rfl : json = json' := by
      rw [write_ofDocument hd, hjson] at hjson'
      exact Except.ok.inj hjson'
    rw [hlines, shownLines_of_isLine hquery, List.tail_cons, hjoined]

end

/-- A text with a separator in it is cut in two when it is shown. -/
theorem shown_cases_separator :
    letI := Limits.ordinary
    let d : Document := .text "a\u2028b"
    d.IsProper ∧ Text.IsLine "@" ∧
      ∃ text json, (⟨"@", ofDocument d⟩ : QueryResult).text 2 = .ok text ∧
        text = "Query: " ++ "@" ++ "\n" ++ json ++ "\n" ∧
        Json.readL 0 json.toList = .error .malformed := by
  let limits := Limits.ordinary
  intro d
  have hline : Text.IsLine "@" := by simp [Text.IsLine, Text.isLineEnd]
  have hsplits : d.Splits := ⟨_, .text, '\u2028', by simp, by simp [Text.separators]⟩
  refine ⟨.text _, hline, ?_⟩
  rcases shown_cases (.text _) hline 2 with ⟨-, e, he⟩ | ⟨text, json, htext, hform, -, hread⟩
  · cases he
  · exact ⟨text, json, htext, hform, (hread 0 (Nat.le_refl 0)).2 hsplits⟩

end Winnow
