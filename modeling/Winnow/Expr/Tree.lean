import Winnow.Json.Value

/-!
# Query expressions

* `Comparison` — the six comparisons.
* `Expr` — the tree of an expression. Every node is a function from a value to a value.
* `isSubscripted`, `isChain` — the chains of subscripts and of lookups.

The language is JMESPath, to which section 4.3 of the DocQuery specification leaves the reading and
the evaluation of queries.
-/

namespace Winnow

/-- A comparison of two values. -/
inductive Comparison where
  | eq
  | ne
  | lt
  | le
  | gt
  | ge
  deriving DecidableEq, Inhabited

/-- A comparison as it is written. -/
def Comparison.mark : Comparison → Text
  | eq => "=="
  | ne => "!="
  | lt => "<"
  | le => "<="
  | gt => ">"
  | ge => ">="

/-- An expression of the query language. -/
inductive Expr where
  /-- The value itself. -/
  | current
  /-- A value written in the query. -/
  | literal (value : Json.Document)
  /-- The value at a key. -/
  | field (name : Text)
  /-- The item at a position of the array that `e` yields; negative positions count from its end. -/
  | index (e : Expr) (position : Int)
  /-- Every `step`-th item of the array that `e` yields, from `start` to before `stop`. -/
  | slice (e : Expr) (start stop step : Option Int)
  /-- The value of the right at the value of the left. -/
  | sub (left right : Expr)
  /-- The same, where the left is a whole expression. -/
  | pipe (left right : Expr)
  /-- The left if it is not false-like, else the right. -/
  | or (left right : Expr)
  /-- The left if it is false-like, else the right. -/
  | and (left right : Expr)
  | not (e : Expr)
  | compare (comparison : Comparison) (left right : Expr)
  /-- The right at every item of the array on the left. -/
  | project (left right : Expr)
  /-- The right at every value of the object on the left. -/
  | projectValues (left right : Expr)
  /-- The right at every item of the array on the left at which the condition holds. -/
  | select (left condition right : Expr)
  /-- The array on the left, its arrays replaced by their items. -/
  | flatten (e : Expr)
  /-- An array of the values of several expressions. -/
  | list (items : List Expr)
  /-- An object of the values of several expressions. -/
  | hash (pairs : List (Text × Expr))
  /-- A function of the values of several expressions. -/
  | call (name : Text) (arguments : List Expr)
  /-- An expression that is itself a value. -/
  | reference (e : Expr)
  deriving Inhabited

namespace Expr

/-- Whether an expression ends in a subscript that is no projection. -/
def isSubscripted : Expr → Bool
  | .index .. => true
  | .slice .. => true
  | _ => false

/-- Whether an expression is a chain of lookups. -/
def isChain : Expr → Bool
  | .sub .. => true
  | _ => false

end Expr

end Winnow
