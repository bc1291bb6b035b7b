import Winnow.Expr.Item

/-!
# What the machine has room for

Values that stand deep in others need room on the stack, and long texts need room in memory. How
much there is depends on the machine and on what else is going on there, so nothing is laid down
here but that a few places are there.

* `Limits` — how much room there is for what is done.
* `Layout.indented` — the layout of the texts that are shown and saved.
-/

namespace Winnow

/-- Where values are written. -/
inductive Site where
  | console
  | resultFile
  deriving DecidableEq, Inhabited

/-- How much room there is. -/
class Limits where
  /-- How many arrays and objects may stand in each other in a document. -/
  documentLevels : Nat
  /-- How many arrays and objects may stand in each other in a literal of a query. -/
  literalLevels : Nat
  /-- How many mappings of a configuration may be merged in each other. -/
  mergeLevels : Nat
  /-- The places that the reading of a query has. -/
  queryPlaces : Nat
  /-- The places that the evaluation of a query has. -/
  evalPlaces : Nat
  /-- Whether an array or an object is written that stands in so many others. -/
  enters : Site → Nat → Item → Bool
  /-- Whether there is memory for the text of a value with so many blanks per level. -/
  holds : Site → Nat → Item → Bool
  /-- There is room for merging the sections of a configuration. -/
  mergeLevels_ge : 8 ≤ mergeLevels
  /-- There is room for the parts of a simple query. -/
  queryPlaces_ge : 32 ≤ queryPlaces
  /-- There is room for the stages of a simple query. -/
  evalPlaces_ge : 64 ≤ evalPlaces

/-- Room as one machine has it. The program runs with it, since it cannot look. -/
@[reducible]
def Limits.ordinary : Limits where
  documentLevels := 991
  literalLevels := 984
  mergeLevels := 980
  queryPlaces := 989
  evalPlaces := 992
  enters := fun _ level _ => level < 991
  holds := fun _ width _ => width < Nat.pow 2 32
  mergeLevels_ge := by decide
  queryPlaces_ge := by decide
  evalPlaces_ge := by decide

namespace Json.Layout

variable [Limits]

/-- Every item on a line of its own, `width` blanks per level. -/
def indented (site : Site) (width : Nat) : Layout Expr.Key Expr.Reference where
  indent := some width
  itemMark := [',']
  keyMark := [':', ' ']
  asciiOnly := false
  enters := Limits.enters site
  holds := Limits.holds site width

end Json.Layout

end Winnow
