import Winnow.Text.Basic

/-!
# Sorted sets of texts

* `sortedSet` — the distinct texts of a list in the order of their code points.
-/

namespace Winnow.Text

/-- The distinct texts of a list in ascending order. -/
def sortedSet (items : List Text) : List Text :=
  items.eraseDups.mergeSort fun s t => !decide (t < s)

end Winnow.Text
