import Winnow.Expr.Eval
import Winnow.Spec.Query

/-!
# Query languages

A language compiles specifications to query texts and evaluates its own texts. The registry holds
one language.

* `Language` — a language with its two functions.
* `Language.find` — the language of an id.

Sections 4.3 and 4.4 of the DocQuery specification: `execute_query`, `QueryLanguage`,
`get_query_language`.
-/

namespace Winnow

/-- A language of queries. -/
structure Language where
  id : Text
  name : Text
  description : Text
  /-- The query text of a specification, for a document of which only the shape counts. -/
  compile : Item → Spec → Except TooLong Text
  /-- The value of a query text at a document. -/
  search : [Limits] → Text → Item → Except Expr.SearchError Item

/-- No language has the id. -/
structure UnknownLanguage where
  id : Text
  deriving DecidableEq

/-- What is said of an id without a language. -/
def UnknownLanguage.message (e : UnknownLanguage) : Text :=
  "Unsupported query language: " ++ e.id

namespace Language

/-- The language of path expressions. -/
def jmesPath : Language where
  id := "jmespath"
  name := "JMESPath"
  description := "Enter a JMESPath query to filter, sort, or transform the JSON data. " ++
    "See https://jmespath.org/ for the language reference."
  compile := fun document spec => spec.query document.isArray
  search := Expr.search

/-- All languages. -/
def all : List Language := [jmesPath]

/-- The ids of all languages. -/
def ids : List Text := all.map Language.id

/-- The language of an id. -/
def find (id : Text) : Except UnknownLanguage Language :=
  match all.find? (·.id == id) with
  | some language => .ok language
  | none => .error ⟨id⟩

end Language

end Winnow
