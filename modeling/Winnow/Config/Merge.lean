import Winnow.Config.Tree

/-!
# Merging configurations

One mapping laid over another. Mappings that stand at one key on both sides are merged in turn; any
other value of the upper side replaces that of the lower one. The value at the key `spec` is always
replaced as a whole, since a mixture of the stages of two queries is a query that nobody wrote.

* `merge` — the upper mapping over the lower one.
* `mergeFits` — whether so many places are enough for the mappings that are merged in each other.

Section 5.2 of the DocQuery specification: the deep merge of a default and an override.
-/

namespace Winnow.Config

/-- The key whose value is never merged. -/
def wholeKey : Key := .text "spec"

mutual

/-- The entries of `upper`, one after the other, put over those of `lower`. -/
def merge (lower : Mapping) : List (Key × Tree) → Mapping
  | [] => lower
  | (key, value) :: upper =>
      merge (Mapping.put lower key (mergeAt key (Mapping.find? lower key) value)) upper

/-- What stands at a key after `value` has been put over the value there, if any. -/
def mergeAt (key : Key) (below : Option Tree) : Tree → Tree
  | .mapping upper =>
      match below with
      | some (.mapping lower) =>
          if key = wholeKey then .mapping upper else .mapping (merge lower upper)
      | _ => .mapping upper
  | value => value

end

/-- Whether `upper` is put over `lower` with so many places; every mapping that is merged takes one,
and leaves the rest to those in it. -/
def mergeFits : Nat → Mapping → Mapping → Bool
  | 0, _, _ => false
  | room + 1, lower, upper => upper.all fun entry =>
      match entry.2, Mapping.find? lower entry.1 with
      | .mapping above, some (.mapping below) => entry.1 = wholeKey || mergeFits room below above
      | _, _ => true

end Winnow.Config
