import Winnow.Expr.Error
import Winnow.Expr.Item

/-!
# Truth, equality and order of values

* `Item.isFalseLike` — the values that count as false in a condition.
* `Item.same` — equality inside arrays and objects, where a boolean equals the number that it
  counts as.
* `Item.equal` — equality of whole values: there a boolean equals no number.
* `Item.compare` — the six comparisons. Order holds between two numbers or two texts; between a
  number and a text it is an error, and between any other two there is none.
-/

namespace Winnow.Expr

open Json

namespace Item

/-- The values that count as false: the empty ones, null and false. Zero is not among them. -/
def isFalseLike : Item → Bool
  | .null => true
  | .bool b => !b
  | .text s => s.isEmpty
  | .array items => items.isEmpty
  | .object entries => entries.isEmpty
  | _ => false

/-- The values that count as true. -/
def isTrueLike (v : Item) : Bool := !isFalseLike v

mutual

/-- Equality inside arrays and objects. Numbers are equal by value, also to booleans; objects are
equal whatever the order of their keys; what is not a number, and a reference, is the same as
itself. -/
def same : Item → Item → Bool
  | .null, .null => true
  | .bool a, .bool b => a == b
  | .bool a, .number n => (ofBool a).same n
  | .number n, .bool a => n.same (ofBool a)
  | .number m, .number n => m.same n
  | .text s, .text t => s == t
  | .array xs, .array ys => sameItems xs ys
  | .object xs, .object ys => xs.length == ys.length && sameEntries xs ys
  | .reference r, .reference s => r.same s
  | _, _ => false

/-- Equality of the items of two arrays. -/
def sameItems : List Item → List Item → Bool
  | [], [] => true
  | x :: xs, y :: ys => same x y && sameItems xs ys
  | _, _ => false

/-- Whether every entry of the first object has its like in the second. -/
def sameEntries : List (Key × Item) → List (Key × Item) → Bool
  | [], _ => true
  | (key, x) :: xs, ys =>
      (match Entries.get? ys key with
        | some y => same x y
        | none => false) && sameEntries xs ys

end

/-- Equality of whole values: a boolean equals no number, and what is not a number does not equal
itself. -/
def equal : Item → Item → Bool
  | .number m, .number n => m.eq n
  | .number _, .bool _ => false
  | .bool _, .number _ => false
  | v, w => same v w

/-- The order of two numbers that a comparison asks for. -/
def orderNumbers (comparison : Comparison) (m n : Number) : Bool :=
  match comparison with
  | .eq => m.eq n
  | .ne => !m.eq n
  | .lt => m.lt n
  | .le => m.le n
  | .gt => n.lt m
  | .ge => n.le m

/-- The order of two texts, by code points, that a comparison asks for. -/
def orderTexts (comparison : Comparison) (s t : Text) : Bool :=
  match comparison with
  | .eq => s == t
  | .ne => s != t
  | .lt => s < t
  | .le => !decide (t < s)
  | .gt => t < s
  | .ge => !decide (s < t)

/-- The order of two values; only numbers and texts have one, each kind its own. -/
def order (comparison : Comparison) : Item → Item → Except EvalError Item
  | .number m, .number n => .ok (.bool (orderNumbers comparison m n))
  | .text s, .text t => .ok (.bool (orderTexts comparison s t))
  | v@(.number _), w@(.text _) => .error (.unordered comparison v.kindName w.kindName)
  | v@(.text _), w@(.number _) => .error (.unordered comparison v.kindName w.kindName)
  | _, _ => .ok .null

/-- The value of a comparison. -/
def compare (comparison : Comparison) (v w : Item) : Except EvalError Item :=
  match comparison with
  | .eq => .ok (.bool (equal v w))
  | .ne => .ok (.bool (!equal v w))
  | _ => order comparison v w

/-- Whether `v` comes before `w`, for two numbers or two texts. -/
def before : Item → Item → Bool
  | .number m, .number n => m.lt n
  | .text s, .text t => s < t
  | _, _ => false

/-- Whether a value has a place in the order of its kind. -/
def hasPlace : Item → Bool
  | .number n => n.point?.isSome
  | .text _ => true
  | _ => false

end Item

end Winnow.Expr
