import Winnow.Language
import Winnow.Log.Record

/-!
# Running queries

A service runs specifications and query texts through one language and logs what it does.

* `Service.compile`, `Service.execute`, `Service.run` — compilation, evaluation, and both in turn.
* `QueryResult` — a query text with the value that it gave.

Section 4.5 of the DocQuery specification: `DocumentQueryService`, `QueryResult`.
-/

namespace Winnow

open Log (Logged)

/-- A query text with the value that it gave. -/
structure QueryResult where
  query : Text
  value : Item
  deriving Inhabited

/-- Why a query gives no value. -/
inductive QueryError where
  /-- A value of the specification has too many digits. -/
  | literal (cause : TooLong)
  | search (cause : Expr.SearchError)
  deriving DecidableEq

/-- A service for one language. -/
structure Service where
  language : Language

namespace Service

/-- How a log tells of a value. -/
def describe : Item → Text
  | .array items => toString items.length ++ " items"
  | .null => "null (no matching property)"
  | v => v.kindName

/-- The query text of a specification for a document. -/
def compile (service : Service) (document : Item) (spec : Spec) : Logged QueryError Text := do
  let query ← match service.language.compile document spec with
    | .ok query => pure query
    | .error cause => throw (.literal cause)
  if spec.isIdentity then
    Log.write Log.info ("Query spec has no stages; using identity query " ++ query)
  Log.write Log.debug ("Compiled " ++ service.language.name ++ " query: " ++ query)
  return query

variable [Limits]

/-- The value of a query text at a document. -/
def execute (service : Service) (document : Item) (query : Text) :
    Logged QueryError QueryResult := do
  Log.write Log.debug ("Executing JMESPath query: " ++ query)
  let value ← match service.language.search query document with
    | .ok value => pure value
    | .error cause => throw (.search cause)
  Log.write Log.info ("Query returned " ++ describe value)
  return ⟨query, value⟩

/-- The value of a specification at a document. -/
def run (service : Service) (document : Item) (spec : Spec) : Logged QueryError QueryResult := do
  let query ← service.compile document spec
  service.execute document query

end Service

end Winnow
