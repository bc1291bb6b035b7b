import Winnow.Config.Entry
import Winnow.Text.Blank
import Winnow.Text.Case
import Winnow.Text.Sorted

/-!
# The setting of a specification

* `readSpec` — the specification that a value spells out; null spells out the identity.
* `Spec.toDocument` — a specification spelled out.

Section 5.2 of the DocQuery specification: the entry `spec`.
-/

namespace Winnow.Config

open Json (Document)

/-! ## Reading -/

/-- The names of the stages. -/
def stageNames : List Text := ["filter", "sort", "projection"]

/-- A filter: a relation and a value, and perhaps a path. -/
def readFilter (key : Text) (value : Tree) : Read Filter := do
  let entries ← asMapping key value
  let relationKey := key ++ ".relation"
  let relation ← asText relationKey (← required entries "relation" relationKey)
  if relation ∉ relations then throw (.notOneOf relationKey relations)
  let path ← asPath (key ++ ".path") (Mapping.get? entries "path")
  let valueKey := key ++ ".value"
  let operand ← asScalar valueKey (← required entries "value" valueKey)
  return { path := path, relation := relation, value := operand }

/-- A sort: perhaps a direction, in any case and with blanks around it, and perhaps a path. -/
def readSort (key : Text) (value : Tree) : Read SortKey := do
  let entries ← asMapping key value
  let directionKey := key ++ ".direction"
  let spelled ← entryOr asText entries "direction" directionKey "asc"
  let direction := Text.lower (Text.trim spelled)
  if direction ∉ directions then throw (.notOneOf directionKey directions)
  let path ← asPath (key ++ ".path") (Mapping.get? entries "path")
  return { path := path, direction := direction }

/-- A projection: at least one path. -/
def readProjection (key : Text) (value : Tree) : Read Projection := do
  let entries ← asMapping key value
  let pathsKey := key ++ ".paths"
  let listed ← required entries "paths" pathsKey
  let paths ← asList (fun key value => asPath key (some value)) pathsKey listed
  if paths.isEmpty then throw (.noPaths key)
  return { paths := paths }

/-- A stage that may be missing or null. -/
def readStage {β : Type} (reader : Text → Tree → Read β) (key : Text) (entries : Mapping)
    (name : Text) : Read (Option β) :=
  match Mapping.get? entries name with
  | none => .ok none
  | some .null => .ok none
  | some value => some <$> reader (key ++ "." ++ name) value

/-- The specification that a value spells out; a missing one or null is the identity. -/
def readSpec (key : Text) : Option Tree → Read Spec
  | none => .ok Spec.identity
  | some .null => .ok Spec.identity
  | some value => do
      let entries ← asMapping key value
      let names ← (Mapping.shownKeys entries).mapError SettingError.unnamedStage
      let unknown := names.filter (· ∉ stageNames)
      if !unknown.isEmpty then throw (.unknownStages key (Text.sortedSet unknown))
      let filter ← readStage readFilter key entries "filter"
      let sort ← readStage readSort key entries "sort"
      let projection ← readStage readProjection key entries "projection"
      return { filter := filter, sort := sort, projection := projection }

end Winnow.Config

/-! ## Spelling out -/

namespace Winnow

open Json (Document)

/-- A scalar as a document. -/
def Scalar.toDocument : Scalar → Document
  | .null => .null
  | .bool b => .bool b
  | .number n => .number n
  | .text s => .text s

/-- A path as a list of its segments. -/
def FieldPath.toDocument (path : FieldPath) : Document := .array (path.map .text)

/-- A filter spelled out. -/
def Filter.toDocument (f : Filter) : Document :=
  .object [("path", FieldPath.toDocument f.path), ("relation", .text f.relation),
    ("value", f.value.toDocument)]

/-- A sort spelled out. -/
def SortKey.toDocument (s : SortKey) : Document :=
  .object [("path", FieldPath.toDocument s.path), ("direction", .text s.direction)]

/-- A projection spelled out. -/
def Projection.toDocument (p : Projection) : Document :=
  .object [("paths", .array (p.paths.map FieldPath.toDocument))]

/-- A specification spelled out; a missing stage is null. -/
def Spec.toDocument (s : Spec) : Document :=
  .object [("filter", (s.filter.map Filter.toDocument).getD .null),
    ("sort", (s.sort.map SortKey.toDocument).getD .null),
    ("projection", (s.projection.map Projection.toDocument).getD .null)]

end Winnow
