import Winnow.Limits
import Winnow.Service
import Winnow.Text.Lines

/-!
# The forms of a result

* `QueryResult.lines`, `QueryResult.text` — the query and its value for the reader of a console.
* `QueryResult.entry` — the query and its value as one value of a result file.

Section 5.5 of the DocQuery specification: what `ConsoleOutputWriter` and `JsonFileWriter` write.
-/

namespace Winnow.QueryResult

variable [Limits]

/-- The query, and the lines of the value's JSON text. -/
def lines (result : QueryResult) (indent : Nat) : Except Json.WriteError (List Text) := do
  let json ← Json.write (.indented .console indent) result.value
  return ("Query: " ++ result.query) :: Text.splitLines json

/-- The lines of a result as one text. -/
def text (result : QueryResult) (indent : Nat) : Except Json.WriteError Text := do
  let lines ← result.lines indent
  return Text.intercalate "\n" lines ++ "\n"

/-- A result with the path of its document, as a value. -/
def entry (result : QueryResult) (dataPath : Option Text) : Item :=
  .object [
    (.text "data", (dataPath.map .text).getD .null),
    (.text "query", .text result.query),
    (.text "result", result.value)]

end Winnow.QueryResult
