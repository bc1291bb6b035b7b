import Winnow.Spec.Scalar

/-!
# Query specifications

A specification names up to three stages that a document goes through: a filter, a sort, and a
projection.

* `Filter`, `SortKey`, `Projection` — the stages.
* `Spec` — the stages of one query; `Spec.identity` has none.
* `Spec.Valid` — the specifications that a configuration may name.

Section 3 of the DocQuery specification: `FilterSpec`, `SortSpec`, `ProjectionSpec`, `QuerySpec`.
-/

namespace Winnow

/-- The keys that lead from an item to a value inside it; the empty path is the item itself. -/
abbrev FieldPath := List Text

/-- Keeps the items whose value at `path` stands in `relation` to `value`. -/
structure Filter where
  path : FieldPath := []
  relation : Text := "=="
  value : Scalar := .null
  deriving DecidableEq

/-- Orders the items by their values at `path`. -/
structure SortKey where
  path : FieldPath := []
  direction : Text := "asc"
  deriving DecidableEq

/-- Takes from every item the values at one or more paths. -/
structure Projection where
  paths : List FieldPath := []
  deriving DecidableEq

/-- A query by its stages, in the order in which they act. -/
structure Spec where
  filter : Option Filter := none
  sort : Option SortKey := none
  projection : Option Projection := none
  deriving DecidableEq

/-- The relations that a filter may name. -/
def relations : List Text := ["==", "!=", "<", "<=", ">", ">="]

/-- The directions that a sort may name. -/
def directions : List Text := ["asc", "desc"]

namespace Spec

/-- The query that leaves a document as it is. -/
def identity : Spec := {}

/-- Whether a specification has no stages. -/
def isIdentity (s : Spec) : Bool :=
  s.filter.isNone && s.sort.isNone && s.projection.isNone

/-- What the stages of a specification have to meet: a known relation, a known direction, and at
least one path. -/
structure Valid (s : Spec) : Prop where
  relation : ∀ f, s.filter = some f → f.relation ∈ relations
  direction : ∀ o, s.sort = some o → o.direction ∈ directions
  paths : ∀ p, s.projection = some p → p.paths ≠ []

end Spec

end Winnow
