import Winnow.Expr.Compare
import Winnow.Number.Spelled
import Winnow.Sorting.Runs

/-!
# Functions of the query language

* `Function` — the functions; `Function.byName` and `Function.ofName?` are their names.
* `Parameter` — what a function asks of an argument; `Function.parameters` and
  `Function.isVariadic` are its signature.
* `Function.checkArguments` — the count is checked before the kinds.
* `Function.apply` — the value at checked arguments. A function that takes a reference is given
  the means to evaluate it, and what a function makes anew has the origin that it is given.
-/

namespace Winnow.Expr

open Json

/-- A function of the query language. -/
inductive Function where
  | abs | avg | ceil | contains | endsWith | floor | join | keys | length | map | max | maxBy
  | merge | min | minBy | notNull | reverse | sort | sortBy | startsWith | sum | toArray | toNumber
  | toString | type | values
  deriving DecidableEq, Inhabited

/-- What a function asks of an argument. -/
inductive Parameter where
  | any
  | number
  | text
  | array
  | object
  | reference
  | arrayOrText
  | arrayTextOrObject
  /-- An array of numbers. -/
  | numbers
  /-- An array of texts. -/
  | texts
  /-- An array of numbers or an array of texts. -/
  | numbersOrTexts
  deriving DecidableEq, Inhabited

/-! ## Signatures -/

/-- Whether a value is a number. -/
def Item.isNumber : Item → Bool
  | .number _ => true
  | _ => false

/-- Whether a value is a text. -/
def Item.isText : Item → Bool
  | .text _ => true
  | _ => false

/-- Whether a value meets what is asked of an argument. -/
def Parameter.accepts : Parameter → Item → Bool
  | any, _ => true
  | number, .number _ => true
  | text, .text _ => true
  | array, .array _ => true
  | object, .object _ => true
  | reference, .reference _ => true
  | arrayOrText, .array _ => true
  | arrayOrText, .text _ => true
  | arrayTextOrObject, .array _ => true
  | arrayTextOrObject, .text _ => true
  | arrayTextOrObject, .object _ => true
  | numbers, .array items => items.all Item.isNumber
  | texts, .array items => items.all Item.isText
  | numbersOrTexts, .array items => items.all Item.isNumber || items.all Item.isText
  | _, _ => false

namespace Function

/-- The functions by their names. -/
def byName : List (Text × Function) := [
  ("abs", abs), ("avg", avg), ("ceil", ceil), ("contains", contains), ("ends_with", endsWith),
  ("floor", floor), ("join", join), ("keys", keys), ("length", length), ("map", map), ("max", max),
  ("max_by", maxBy), ("merge", merge), ("min", min), ("min_by", minBy), ("not_null", notNull),
  ("reverse", reverse), ("sort", sort), ("sort_by", sortBy), ("starts_with", startsWith),
  ("sum", sum), ("to_array", toArray), ("to_number", toNumber), ("to_string", toString),
  ("type", type), ("values", values)]

/-- The function of a name. -/
def ofName? (name : Text) : Option Function := byName.lookup name

/-- What a function asks of its arguments, in order. -/
def parameters : Function → List Parameter
  | abs => [.number]
  | avg => [.numbers]
  | ceil => [.number]
  | contains => [.arrayOrText, .any]
  | endsWith => [.text, .text]
  | floor => [.number]
  | join => [.text, .texts]
  | keys => [.object]
  | length => [.arrayTextOrObject]
  | map => [.reference, .array]
  | max => [.numbersOrTexts]
  | maxBy => [.array, .reference]
  | merge => [.object]
  | min => [.numbersOrTexts]
  | minBy => [.array, .reference]
  | notNull => [.any]
  | reverse => [.arrayOrText]
  | sort => [.numbersOrTexts]
  | sortBy => [.array, .reference]
  | startsWith => [.text, .text]
  | sum => [.numbers]
  | toArray => [.any]
  | toNumber => [.any]
  | toString => [.any]
  | type => [.any]
  | values => [.object]

/-- Whether a function takes further arguments, of which nothing is asked. -/
def isVariadic : Function → Bool
  | merge => true
  | notNull => true
  | _ => false

/-- Checks the count of the arguments, then what is asked of each. -/
def checkArguments (f : Function) (arguments : List Item) : Except EvalError Unit :=
  let wanted := f.parameters
  if f.isVariadic && arguments.length < wanted.length then .error .noArguments
  else if !f.isVariadic && arguments.length != wanted.length then .error .arity
  else if (wanted.zip arguments).all fun (parameter, v) => parameter.accepts v then .ok ()
  else .error .argumentKind

/-! ## Numbers -/

/-- The numbers among values. -/
def numbersOf (items : List Item) : List Number :=
  items.filterMap fun
    | .number n => some n
    | _ => none

/-- The texts among values. -/
def textsOf (items : List Item) : List Text :=
  items.filterMap fun
    | .text s => some s
    | _ => none

/-- The sum of numbers, added from left to right to zero. -/
def total (numbers : List Number) : Except EvalError Number :=
  (numbers.foldlM Number.add (.int 0)).mapError EvalError.tooLarge

/-- The mean of numbers; there is none of no numbers. -/
def mean (here : Origin) (numbers : List Number) : Except EvalError Item :=
  if numbers.isEmpty then .ok .null
  else do
    let sum ← total numbers
    let x ← (sum.divideBy numbers.length).mapError EvalError.tooLarge
    return .number (Number.made here (.float x))

/-- An integer, or the error of what is not finite. -/
def rounded (n : Except Number.NotFinite Int) : Except EvalError Item :=
  match n with
  | .ok n => .ok (.number (.int n))
  | .error cause => .error (.notFinite cause)

/-- The number that a value is or spells. -/
def numberOf (here : Origin) : Item → Except EvalError Item
  | .number n => .ok (.number n)
  | .text s => .ok (match Number.ofSpelling? s with
      | some n => .number (n.made here)
      | none => .null)
  | v@(.reference _) => .error (.notNumber v.kindName)
  | _ => .ok .null

/-! ## Texts -/

/-- Whether `part` occurs in a text. -/
def occursIn (part : List CodePoint) : List CodePoint → Bool
  | [] => part.isEmpty
  | c :: rest => part.isPrefixOf (c :: rest) || occursIn part rest

/-- Whether the second value is an item of the first, or occurs in it as a text. -/
def holds : Item → Item → Except EvalError Item
  | .array items, v => .ok (.bool (items.any fun item => Item.same item v))
  | .text s, .text part => .ok (.bool (occursIn part.toList s.toList))
  | .text _, v => .error (.notText v.kindName)
  | _, _ => .error .argumentKind

/-- A value as text: a text itself, any other value in compact JSON, in which `room` arrays and
objects may stand in each other. A reference in it is written as a text. -/
def textOf (room : Nat) : Item → Except EvalError Item
  | .text s => .ok (.text s)
  | v => match Json.write (.compact room) (Item.spelled v) with
      | .ok s => .ok (.text s)
      | .error cause => .error (.write cause)

/-- The name of a value's type; a reference has none. -/
def typeOf : Item → Item
  | .null => .text "null"
  | .bool _ => .text "boolean"
  | .number _ => .text "number"
  | .text _ => .text "string"
  | .array _ => .text "array"
  | .object _ => .text "object"
  | .reference _ => .null

/-! ## Merging -/

/-- The two values of a pair: an array, a text or an object with two items, characters or keys. -/
def pairOf (position : Nat) (v : Item) : Except EvalError (Item × Item) := do
  let parts ← match v with
    | .array items => pure items
    | .text s => pure (s.toList.map fun c => .text (Text.ofList [c]))
    | .object entries => pure (entries.map fun entry => entry.1.item)
    | _ => throw (.merge (.noSequence position))
  match parts with
  | [a, b] => return (a, b)
  | _ => throw (.merge (.size position parts.length))

/-- The value as a key. -/
def keyOf (v : Item) : Except EvalError Key :=
  match Key.ofItem? v with
  | some key => .ok key
  | none => .error (.merge (.noKey v.kindName))

/-- The entries with pairs put after them. -/
def putPairs (position : Nat) (entries : Entries Key Reference) :
    List Item → Except EvalError (Entries Key Reference)
  | [] => .ok entries
  | v :: rest => do
      let (key, value) ← pairOf position v
      putPairs (position + 1) (Entries.put entries (← keyOf key) value) rest

/-- The entries with those of a value put after them: of an object, or of the pairs of a
sequence. -/
def putAll (entries : Entries Key Reference) : Item → Except EvalError (Entries Key Reference)
  | .object more =>
      .ok (more.foldl (fun entries entry => Entries.put entries entry.1 entry.2) entries)
  | .array pairs => putPairs 0 entries pairs
  | .text s => putPairs 0 entries (s.toList.map fun c => .text (Text.ofList [c]))
  | v => .error (.merge (.noItems v.kindName))

/-! ## Order -/

/-- Whether a value can be ordered by. -/
def isKey (v : Item) : Bool := Item.isNumber v || Item.isText v

/-- The value of a reference at an item, which has to be a number or a text. -/
def keyAt (key : Item → Except EvalError Item) (v : Item) : Except EvalError Item := do
  let k ← key v
  if isKey k then return k else throw .argumentKind

/-- The item whose key stands in `comparison` to those of all items before it, and of equals the
first; `best` is the one so far, with its key. -/
def extremeFrom (comparison : Comparison) (key : Item → Except EvalError Item)
    (best : Item × Item) : List Item → Except EvalError Item
  | [] => .ok best.2
  | v :: rest => do
      let k ← key v
      match ← Item.order comparison k best.1 with
      | .bool true => extremeFrom comparison key (k, v) rest
      | _ => extremeFrom comparison key best rest

/-- The item with the extreme key; of no items there is none. -/
def extreme (comparison : Comparison) (key : Item → Except EvalError Item) :
    List Item → Except EvalError Item
  | [] => .ok .null
  | v :: rest => do
      let k ← key v
      extremeFrom comparison key (k, v) rest

/-- Items in the ascending order of their keys; equals stay as they are. Where some key has no place
in the order, what comes out depends on the comparisons that are made, and those are the ones of
sorting by runs. -/
def sortKeyed (keyed : List (Item × Item)) : List Item :=
  if keyed.all fun pair => Item.hasPlace pair.1 then
    (keyed.mergeSort fun a b => !Item.before b.1 a.1).map Prod.snd
  else (Sorting.sortByRuns (fun a b => Item.before a.1 b.1) keyed).map Prod.snd

/-- Items in the ascending order of their keys, which have to be of the kind of the first: all
numbers or all texts. -/
def sortedBy (key : Item → Except EvalError Item) : List Item → Except EvalError (List Item)
  | [] => .ok []
  | items@(first :: _) => do
      let k ← keyAt key first
      let keyed ← items.mapM fun v => do
        let k' ← key v
        if Item.isNumber k' && Item.isNumber k || Item.isText k' && Item.isText k then pure (k', v)
        else throw .argumentKind
      return sortKeyed keyed

/-! ## Application -/

/-- The first value that is not null. -/
def firstNotNull (items : List Item) : Item :=
  (items.find? fun v => !v.isNull).getD .null

/-- The values of a reference at several values, each evaluated at a place of its own. -/
def mapItems (call : Origin → Item → Except EvalError Item) (here : Origin) (items : List Item) :
    Except EvalError (List Item) :=
  items.zipIdx.mapM fun (v, i) => call (i :: here) v

/-- The places that a function takes before it evaluates a reference. A function that orders by keys
takes more than one that goes from item to item. -/
def places : Function → Nat
  | sortBy => 5
  | maxBy => 5
  | minBy => 5
  | _ => 3

/-- The places that it takes to write a value as text. -/
def writePlaces : Nat := 6

/-- The value of a function at checked arguments, where `room` places are left; `call` evaluates an
expression at a value, at a place of the computation that lies below `here`. -/
def apply (call : Origin → Expr → Item → Except EvalError Item) (room : Nat) (here : Origin) :
    Function → List Item → Except EvalError Item
  | abs, [.number n] => .ok (.number (n.abs.made here))
  | avg, [.array items] => mean here (numbersOf items)
  | ceil, [.number n] => rounded n.ceil
  | contains, [v, w] => holds v w
  | endsWith, [.text s, .text t] => .ok (.bool (t.toList.isSuffixOf s.toList))
  | floor, [.number n] => rounded n.floor
  | join, [.text glue, .array items] => .ok (.text (Text.intercalate glue (textsOf items)))
  | keys, [.object entries] => .ok (.array (entries.map fun entry => entry.1.item))
  | length, [.text s] => .ok (.number (.int s.length))
  | length, [.array items] => .ok (.number (.int items.length))
  | length, [.object entries] => .ok (.number (.int entries.length))
  | map, [.reference r, .array items] => do
      return .array (← mapItems (fun place v => call place r.expr v) here items)
  | max, [.array items] => extreme .gt pure items
  | maxBy, [.array items, .reference r] => extreme .gt (keyAt (call here r.expr)) items
  | merge, items => do return .object (← items.foldlM putAll [])
  | min, [.array items] => extreme .lt pure items
  | minBy, [.array items, .reference r] => extreme .lt (keyAt (call here r.expr)) items
  | notNull, items => .ok (firstNotNull items)
  | reverse, [.text s] => .ok (.text (Text.ofList s.toList.reverse))
  | reverse, [.array items] => .ok (.array items.reverse)
  | sort, [.array items] => do return .array (← sortedBy pure items)
  | sortBy, [.array items, .reference r] => do
      return .array (← sortedBy (call here r.expr) items)
  | startsWith, [.text s, .text t] => .ok (.bool (t.toList.isPrefixOf s.toList))
  | sum, [.array items] => do return .number ((← total (numbersOf items)).made here)
  | toArray, [.array items] => .ok (.array items)
  | toArray, [v] => .ok (.array [v])
  | toNumber, [v] => numberOf here v
  | toString, [v] => textOf (room - writePlaces) v
  | type, [v] => .ok (typeOf v)
  | values, [.object entries] => .ok (.array (entries.map Prod.snd))
  | _, _ => .error .argumentKind

end Function

end Winnow.Expr
