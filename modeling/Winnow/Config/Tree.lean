import Winnow.Json.Value
import Winnow.Number.Text
import Winnow.Yaml.Moment

/-!
# Configuration trees

The raw material of a configuration, before any setting is read from it: what a configuration file
or a JSON document holds.

* `Key` — what an entry of a mapping is found under; a text, as a rule.
* `Tree` — values of a configuration; moments in time are values that no setting takes.
* `Mapping` — entries in order.
* `Key.shown` — a key in a message, if it has not too many digits.
* `Tree.ofDocument` — the trees that are JSON documents.
-/

namespace Winnow.Config

open Json (Document)

/-- What an entry of a mapping is found under. -/
inductive Key where
  | null
  | bool (b : Bool)
  | number (n : Number)
  | text (s : Text)
  /-- A date or a time. -/
  | moment (m : Yaml.Moment)
  deriving DecidableEq, Inhabited

/-- A value of a configuration. -/
inductive Tree where
  | null
  | bool (b : Bool)
  | number (n : Number)
  | text (s : Text)
  /-- A date or a time. -/
  | moment (m : Yaml.Moment)
  | list (items : List Tree)
  | mapping (entries : List (Key × Tree))
  deriving Inhabited

/-- The entries of a mapping, in order. -/
abbrev Mapping := List (Key × Tree)

/-! ## Keys -/

namespace Key

/-- The number that a key counts as, if any; a boolean counts as zero or one. -/
def number? : Key → Option Number
  | bool b => some (.int (if b then 1 else 0))
  | number n => some n
  | _ => none

/-- Whether two keys lead to one entry: they are equal, or the same as numbers or as moments. -/
def same (j k : Key) : Bool :=
  match j.number?, k.number? with
  | some m, some n => m.same n
  | _, _ =>
      match j, k with
      | moment m, moment n => m.same n
      | _, _ => j == k

/-- Floats as messages show them. -/
def shownFloat : FloatLayout :=
  { FloatLayout.plain with infinity := (Text.toList "inf"), nan := (Text.toList "nan") }

/-- A key as messages show it. An integer of too many digits is not shown. -/
def shown : Key → Except TooLong Text
  | null => .ok "None"
  | bool b => .ok (if b then "True" else "False")
  | number (.int n) => (Number.int n).write.map Text.ofList
  | number (.float x) => .ok (Text.ofList (shownFloat.write x))
  | number (.undefined _) => .ok (Text.ofList shownFloat.nan)
  | text s => .ok s
  | moment m => .ok m.shown

end Key

/-! ## Mappings -/

namespace Mapping

/-- The keys as messages show them. -/
def shownKeys (entries : Mapping) : Except TooLong (List Text) :=
  entries.mapM fun entry => entry.1.shown

/-- The value at a key. -/
def find? (entries : Mapping) (key : Key) : Option Tree :=
  (List.find? (fun entry => entry.1.same key) entries).map Prod.snd

/-- The value at a text. -/
def get? (entries : Mapping) (name : Text) : Option Tree := find? entries (.text name)

/-- The entries with `value` at `key`: in the place of the entry there, or at the end. -/
def put : Mapping → Key → Tree → Mapping
  | [], key, value => [(key, value)]
  | (k, v) :: rest, key, value =>
      if k.same key then (k, value) :: rest else (k, v) :: put rest key value

/-- The entries that arise when pairs are put one after the other. -/
def ofPairs (pairs : List (Key × Tree)) : Mapping :=
  pairs.foldl (fun entries pair => put entries pair.1 pair.2) []

end Mapping

/-! ## Documents -/

mutual

/-- A document as a tree. -/
def Tree.ofDocument : Document → Tree
  | .null => .null
  | .bool b => .bool b
  | .number n => .number n
  | .text s => .text s
  | .array items => .list (Tree.ofItems items)
  | .object entries => .mapping (Tree.ofEntries entries)

/-- The items of an array as trees. -/
def Tree.ofItems : List Document → List Tree
  | [] => []
  | x :: rest => Tree.ofDocument x :: Tree.ofItems rest

/-- The entries of an object as those of a mapping. -/
def Tree.ofEntries : List (Text × Document) → Mapping
  | [] => []
  | (name, x) :: rest => (.text name, Tree.ofDocument x) :: Tree.ofEntries rest

end

end Winnow.Config
