import Winnow.Expr.Tree
import Winnow.Json.Writer

/-!
# Errors of evaluation

* `EvalError` — why an expression has no value at a value.
* `EvalError.message?` — what is said of it; misuse of a function is told by its kind alone.
-/

namespace Winnow.Expr

/-- Why two mappings cannot be merged. -/
inductive MergeError where
  /-- The value of the given kind has no items. -/
  | noItems (kind : Text)
  /-- The item at a position is no pair. -/
  | noSequence (position : Nat)
  /-- The item at a position has a length other than two. -/
  | size (position count : Nat)
  /-- A value of the given kind cannot be a key. -/
  | noKey (kind : Text)
  deriving DecidableEq, Inhabited

/-- What is said of a failed merge. -/
def MergeError.message : MergeError → Text
  | noItems kind => "'" ++ kind ++ "' object is not iterable"
  | noSequence position =>
      "cannot convert dictionary update sequence element #" ++ toString position ++ " to a sequence"
  | size position count =>
      "dictionary update sequence element #" ++ toString position ++ " has length " ++
        toString count ++ "; 2 is required"
  | noKey kind => "unhashable type: '" ++ kind ++ "'"

/-- Why an expression has no value at a value. -/
inductive EvalError where
  | unknownFunction
  /-- A function has the wrong number of arguments. -/
  | arity
  /-- A function of one or more arguments has none. -/
  | noArguments
  /-- An argument, or the value of a reference at an item, is of the wrong kind. -/
  | argumentKind
  /-- Numbers and texts have no common order. -/
  | unordered (comparison : Comparison) (left right : Text)
  | zeroStep
  /-- A number is beyond the range of floats. -/
  | tooLarge (cause : Number.TooLarge)
  /-- A float has no nearest integer. -/
  | notFinite (cause : Number.NotFinite)
  /-- A value of the given kind is sought in a text. -/
  | notText (kind : Text)
  /-- A value of the given kind is no number and spells none. -/
  | notNumber (kind : Text)
  | merge (cause : MergeError)
  | write (cause : Json.WriteError)
  /-- Computations stand too deep in each other. -/
  | noRoom
  deriving DecidableEq, Inhabited

/-- What is said where there is no room for what stands inside something else. -/
def noRoomMessage : Text := "maximum recursion depth exceeded"

/-- What is said of an error, where more is said than its kind. -/
def EvalError.message? : EvalError → Option Text
  | unknownFunction | arity | noArguments | argumentKind => none
  | unordered comparison left right =>
      some ("'" ++ comparison.mark ++ "' not supported between instances of '" ++ left ++
        "' and '" ++ right ++ "'")
  | zeroStep => some "slice step cannot be zero"
  | tooLarge cause => some cause.message
  | notFinite .infinite => some "cannot convert float infinity to integer"
  | notFinite .nan => some "cannot convert float NaN to integer"
  | notText kind => some ("'in <string>' requires string as left operand, not " ++ kind)
  | notNumber kind =>
      some ("int() argument must be a string, a bytes-like object or a real number, not '" ++
        kind ++
        "'")
  | merge cause => some cause.message
  | write cause => some cause.message
  | noRoom => some noRoomMessage

end Winnow.Expr
