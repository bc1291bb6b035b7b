import Winnow.Expr.Tree
import Winnow.Json.Writer

/-!
# The values of a query

Expressions work on JSON values, and make two things that no document holds: references to
expressions, and objects whose keys are no texts. What an expression makes anew has an origin, so
that two references to one expression are told apart.

* `Reference`, `Key`, `Item` — references, keys of objects, and values.
* `Key.same` — whether two keys lead to one entry.
* `Item.ofDocument` — a document as a value.
* `Item.spelled` — a value with texts in the place of references.
* `Key.item`, `Key.ofItem?` — keys and the values that can be keys.
-/

namespace Winnow

namespace Expr

/-- An expression as a value. -/
structure Reference where
  expr : Expr
  origin : Origin
  deriving Inhabited

/-- Whether two references are one. -/
def Reference.same (r s : Reference) : Bool := r.origin == s.origin

/-- What an entry of an object is found under. -/
inductive Key where
  | null
  | bool (b : Bool)
  | number (n : Number)
  | text (s : Text)
  | reference (r : Reference)
  deriving Inhabited

end Expr

/-- What expressions work on. -/
abbrev Item := Json.Value Expr.Key Expr.Reference

namespace Expr

open Json (Document WritableKey WriteError)

/-! ## Keys -/

/-- The number that a boolean counts as. -/
def ofBool (b : Bool) : Number := .int (if b then 1 else 0)

namespace Key

/-- The number that a key counts as, if any. -/
def number? : Key → Option Number
  | bool b => some (ofBool b)
  | number n => some n
  | _ => none

/-- Whether two keys lead to one entry: the same text, the same number, where booleans count as
numbers, or the same reference. -/
def same (j k : Key) : Bool :=
  match j.number?, k.number? with
  | some m, some n => m.same n
  | _, _ =>
      match j, k with
      | null, null => true
      | text s, text t => s == t
      | reference r, reference s => r.same s
      | _, _ => false

/-- Entries are looked up by `Key.same`. -/
instance : BEq Key := ⟨same⟩

/-- Two texts lead to one entry if they are equal. -/
@[simp] theorem same_text (s t : Text) : same (text s) (text t) = (s == t) := rfl

/-- A key as a value. -/
def item : Key → Item
  | null => .null
  | bool b => .bool b
  | number n => .number n
  | text s => .text s
  | reference r => .reference r

/-- A value as a key; arrays and objects cannot be keys. -/
def ofItem? : Item → Option Key
  | .null => some .null
  | .bool b => some (.bool b)
  | .number n => some (.number n)
  | .text s => some (.text s)
  | .reference r => some (.reference r)
  | .array _ => none
  | .object _ => none

/-- A key is written as the text of its value. -/
instance : WritableKey Key where
  keyText
    | .null => .ok (Text.toList "null")
    | .bool b => .ok (if b then Text.toList "true" else Text.toList "false")
    | .number n => n.write.mapError WriteError.tooLong
    | .text s => .ok s.toList
    | .reference _ => .error .referenceKey

end Key

/-! ## Documents as values -/

namespace Item

mutual

/-- A document as a value. -/
def ofDocument : Document → Item
  | .null => .null
  | .bool b => .bool b
  | .number n => .number n
  | .text s => .text s
  | .array items => .array (ofItems items)
  | .object entries => .object (ofEntries entries)

/-- The items of a document's array as values. -/
def ofItems : List Document → List Item
  | [] => []
  | x :: rest => ofDocument x :: ofItems rest

/-- The entries of a document's object as values. -/
def ofEntries : List (Text × Document) → List (Key × Item)
  | [] => []
  | (key, x) :: rest => (.text key, ofDocument x) :: ofEntries rest

end

/-! ## References as texts -/

/-- What stands for a reference in a text. -/
def referenceText : Text := "<jmespath.visitor._Expression object at 0x7f0000000000>"

mutual

/-- A value with texts in the place of the references in it; keys stay as they are. -/
def spelled : Item → Item
  | .array items => .array (spelledItems items)
  | .object entries => .object (spelledEntries entries)
  | .reference _ => .text referenceText
  | v => v

/-- Items with texts in the place of references. -/
def spelledItems : List Item → List Item
  | [] => []
  | x :: rest => spelled x :: spelledItems rest

/-- Entries with texts in the place of references. -/
def spelledEntries : List (Key × Item) → List (Key × Item)
  | [] => []
  | (key, x) :: rest => (key, spelled x) :: spelledEntries rest

end

end Item

end Expr

end Winnow
