import Winnow.Expr.Function
import Winnow.Expr.Reader
import Winnow.Expr.Room

/-!
# Evaluation of expressions

An expression is a function from a value to a value. The evaluator follows the tree; only where a
function evaluates a reference does it start again. It is told how much room is left, and what finds
no room fails; what is not evaluated, such as the right of an `or` whose left holds, needs none.

What an evaluation makes anew, references and outcomes that are not a number, has the place of the
computation for its origin. Every part of an expression is evaluated at a place of its own, and for
every item anew, so no two things made have one origin.

* `evalWith` — the value of an expression, given the room and the means to evaluate references.
* `eval` — the same, with all the room and with references.
* `search` — the value of an expression given as text.
-/

namespace Winnow.Expr

open Json

/-! ## Arrays and objects -/

/-- The value at a key; what is no object has none. -/
def fieldOf (name : Text) : Item → Item
  | .object entries => (Entries.get? entries (.text name)).getD .null
  | _ => .null

/-- The item at a position, counted from the end if negative; what is no array has none. -/
def itemAt (position : Int) : Item → Item
  | .array items =>
      let i := if position < 0 then position + items.length else position
      if i < 0 then .null else (items[i.toNat]?).getD .null
  | _ => .null

/-- The position from which, or before which, a slice of `length` items runs: a negative one counts
from the end, and none lies outside `low` to `high`. -/
def sliceEnd (length low high : Int) (position : Int) : Int :=
  if position < 0 then max (position + length) low else min position high

/-- The items of a slice whose step is not zero. -/
def sliceItems (items : List Item) (start stop : Option Int) (step : Int) : List Item :=
  let length : Int := items.length
  let low : Int := if step < 0 then -1 else 0
  let high : Int := if step < 0 then length - 1 else length
  let first := match start with
    | some position => sliceEnd length low high position
    | none => if step < 0 then high else low
  let last := match stop with
    | some position => sliceEnd length low high position
    | none => if step < 0 then low else high
  let count : Int :=
    if step < 0 then (if last < first then (first - last - 1) / (-step) + 1 else 0)
    else (if first < last then (last - first - 1) / step + 1 else 0)
  let all := items.toArray
  (List.range count.toNat).filterMap fun (i : Nat) => all[(first + i * step).toNat]?

/-- A slice of an array; what is no array has none. -/
def sliceOf (start stop step : Option Int) : Item → Except EvalError Item
  | .array items =>
      let step := step.getD 1
      if step = 0 then .error .zeroStep else .ok (.array (sliceItems items start stop step))
  | _ => .ok .null

/-- The values that are not null. -/
def dropNulls (items : List Item) : List Item := items.filter fun v => !v.isNull

/-- An array with its arrays replaced by their items. -/
def flattenItems (items : List Item) : List Item :=
  items.flatMap fun
    | .array inner => inner
    | v => [v]

/-! ## The evaluator -/

/-- Means to evaluate an expression at a value, with so many places left, at a place of the
computation. -/
abbrev Evaluator := Nat → Origin → Expr → Item → Except EvalError Item

/-- The arguments are evaluated before the function is looked up. -/
def callFunction (call : Evaluator) (room : Nat) (here : Origin) (name : Text)
    (arguments : List Item) : Except EvalError Item :=
  match Function.ofName? name with
  | none => .error .unknownFunction
  | some f => do
      inside checkPlaces room fun _ => f.checkArguments arguments
      let callAt := fun place e v =>
        inside f.places room fun room => deeper room fun room => call room place e v
      f.apply callAt room here arguments

mutual

/-- The value of an expression at a value, where `room` places are left inside the expression;
`call` evaluates references. -/
def evalWith (call : Evaluator) (room : Nat) (here : Origin) : Expr → Item → Except EvalError Item
  | .current, v => .ok v
  | .literal value, _ => .ok (Item.ofDocument value)
  | .field name, v => .ok (fieldOf name v)
  | .index e position, v => do
      let w ← atStart (isSubscripted e) room fun room => evalWith call room here e v
      return itemAt position w
  | .slice e start stop step, v => do
      let w ← atStart (isSubscripted e) room fun room => evalWith call room here e v
      sliceOf start stop step w
  | .sub left right, v => do
      let w ← atStart (isChain left) room fun room => evalWith call room (0 :: here) left v
      deeper room fun room => evalWith call room (1 :: here) right w
  | .pipe left right, v => do
      let w ← deeper room fun room => evalWith call room (0 :: here) left v
      deeper room fun room => evalWith call room (1 :: here) right w
  | .or left right, v => do
      let w ← deeper room fun room => evalWith call room (0 :: here) left v
      if Item.isFalseLike w then deeper room fun room => evalWith call room (1 :: here) right v
      else return w
  | .and left right, v => do
      let w ← deeper room fun room => evalWith call room (0 :: here) left v
      if Item.isFalseLike w then return w
      else deeper room fun room => evalWith call room (1 :: here) right v
  | .not e, v => do
      let w ← deeper room fun room => evalWith call room here e v
      inside notPlaces room fun _ => return .bool (Item.isFalseLike w)
  | .compare comparison left right, v => do
      let a ← deeper room fun room => evalWith call room (0 :: here) left v
      let b ← deeper room fun room => evalWith call room (1 :: here) right v
      inside (comparePlaces comparison) room fun _ => Item.compare comparison a b
  | .project left right, v => do
      match ← deeper room fun room => evalWith call room (0 :: here) left v with
      | .array items =>
          let values ← items.zipIdx.mapM fun (x, i) =>
            deeper room fun room => evalWith call room (i :: 1 :: here) right x
          return .array (dropNulls values)
      | _ => return .null
  | .projectValues left right, v => do
      match ← deeper room fun room => evalWith call room (0 :: here) left v with
      | .object entries =>
          let values ← entries.zipIdx.mapM fun (entry, i) =>
            deeper room fun room => evalWith call room (i :: 1 :: here) right entry.2
          return .array (dropNulls values)
      | _ => return .null
  | .select left condition right, v => do
      match ← deeper room fun room => evalWith call room (0 :: here) left v with
      | .array items =>
          let chosen ← items.zipIdx.mapM fun (x, i) => do
            let holds ← deeper room fun room => evalWith call room (i :: 1 :: here) condition x
            if ← inside truthPlaces room fun _ => return Item.isTrueLike holds then
              deeper room fun room => evalWith call room (i :: 2 :: here) right x
            else return .null
          return .array (dropNulls chosen)
      | _ => return .null
  | .flatten e, v => do
      match ← deeper room fun room => evalWith call room here e v with
      | .array items => return .array (flattenItems items)
      | _ => return .null
  | .list items, v =>
      if v.isNull then .ok .null else do return .array (← evalList call room here 0 items v)
  | .hash pairs, v =>
      if v.isNull then .ok .null
      else do return .object (Entries.ofPairs (← evalPairs call room here 0 pairs v))
  | .call name arguments, v => do
      callFunction call room (0 :: here) name (← evalList call room (1 :: here) 0 arguments v)
  | .reference e, _ => .ok (.reference ⟨e, here⟩)

/-- The values of several expressions at one value, of which `count` stand before. -/
def evalList (call : Evaluator) (room : Nat) (here : Origin) (count : Nat) :
    List Expr → Item → Except EvalError (List Item)
  | [], _ => .ok []
  | e :: rest, v => do
      let w ← deeper room fun room => evalWith call room (count :: here) e v
      let ws ← evalList call room here (count + 1) rest v
      return w :: ws

/-- The values of the expressions of a hash at one value, with their keys; a pair is a level. -/
def evalPairs (call : Evaluator) (room : Nat) (here : Origin) (count : Nat) :
    List (Text × Expr) → Item → Except EvalError (List (Key × Item))
  | [], _ => .ok []
  | (key, e) :: rest, v => do
      let w ← deeper room fun room => deeper room fun room => evalWith call room (count :: here) e v
      let ws ← evalPairs call room here (count + 1) rest v
      return (.text key, w) :: ws

end

section

variable (call : Evaluator) (room : Nat) (here : Origin) (v : Item)

/-- The value itself is always there. -/
theorem evalWith_current : evalWith call room here .current v = .ok v := by
  rw [evalWith]

/-- A lookup by name always has a value. -/
theorem evalWith_field (name : Text) :
    evalWith call room here (.field name) v = .ok (fieldOf name v) := by
  rw [evalWith]

end

/-- The value of an expression, with references evaluated up to a depth. -/
def evalDepth : Nat → Evaluator
  | 0, _, _, _, _ => .error .noRoom
  | depth + 1, room, here, e, v => evalWith (evalDepth depth) room here e v

/-- The value of an expression at a value. A reference inside a reference has less room, so the
depth of references is no further bound. -/
def eval [Limits] (e : Expr) (v : Item) : Except EvalError Item :=
  let places := Limits.evalPlaces
  deeper places fun room => evalDepth places room [] e v

/-- Why a text has no value at a value. -/
inductive SearchError where
  | parse (cause : ParseError)
  | eval (cause : EvalError)
  deriving DecidableEq, Inhabited

/-- The value at a value of the expression that a text writes. -/
def search [Limits] (query : Text) (v : Item) : Except SearchError Item :=
  match parse query with
  | .error cause => .error (.parse cause)
  | .ok e => (eval e v).mapError .eval

end Winnow.Expr
