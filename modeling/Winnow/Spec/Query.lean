import Winnow.Json.Writer
import Winnow.Spec.Basic
import Winnow.Text.Name

/-!
# The query text of a specification

Each stage is written on its own, and the stages are joined by pipes in the order filter, sort,
projection. A path segment that is not a bare name stands between quotes, and a filter's value is a
literal between back-ticks, so no text of a specification can end the place it stands in.

* `renderPath`, `renderLiteral` — the parts that come from outside.
* `Filter.render`, `SortKey.render`, `Projection.render` — the stages.
* `Spec.query` — the whole text.

Section 4.1 of the DocQuery specification: `build_query`, `render_path`, `render_literal`.
-/

namespace Winnow

/-! ## Names and paths -/

/-- A path segment. -/
def renderSegment (name : Text) : List CodePoint :=
  if Text.isBareName name.toList then name.toList else Json.writeString false name.toList

/-- A path: its segments with dots between them, or the mark of the current item. -/
def renderPath (path : FieldPath) : List CodePoint :=
  if path.isEmpty then ['@'] else [.char '.'].intercalate (path.map renderSegment)

/-! ## Literals -/

/-- A back-tick inside a literal is escaped. -/
def escapeTicks (s : List CodePoint) : List CodePoint :=
  s.flatMap fun c => if c = .char '\x60' then ['\\', '\x60'] else [c]

/-- The JSON text of a scalar. -/
def Scalar.render : Scalar → Except TooLong (List CodePoint)
  | .null => .ok (Text.toList "null")
  | .bool true => .ok (Text.toList "true")
  | .bool false => .ok (Text.toList "false")
  | .number n => n.write
  | .text s => .ok (Json.writeString false s.toList)

/-- A scalar as it is compared with: a text stands for the scalar that it spells. -/
def Scalar.operand : Scalar → Except TooLong Scalar
  | .text s => Scalar.classify s
  | v => .ok v

/-- A scalar as a literal of the query. -/
def renderLiteral (value : Scalar) : Except TooLong (List CodePoint) := do
  let operand ← value.operand
  let text ← operand.render
  return '\x60' :: (escapeTicks text ++ [.char '\x60'])

/-! ## Stages -/

/-- The stage of a filter. -/
def Filter.render (f : Filter) : Except TooLong (List CodePoint) := do
  let literal ← renderLiteral f.value
  return Text.toList "[? " ++ renderPath f.path ++ [.char ' '] ++ f.relation.toList ++
    [.char ' '] ++
    literal ++ [.char ']']

/-- The stage of a sort; only the direction `desc` reverses it. -/
def SortKey.render (s : SortKey) : List CodePoint :=
  let ascending := Text.toList "sort_by(@, &" ++ renderPath s.path ++ [.char ')']
  if s.direction = "desc" then Text.toList "reverse(" ++ ascending ++ [.char ')'] else ascending

/-- The selector of all items of an array. -/
def allItems : List CodePoint := Text.toList "[*]"

/-- The key under which a path's value is found: its last segment, or the mark of the item. -/
def pathKey (path : FieldPath) : Text := path.getLast?.getD "@"

/-- A pair of a projection: the key and the path. -/
def renderPair (path : FieldPath) : List CodePoint :=
  renderSegment (pathKey path) ++ Text.toList ": " ++ renderPath path

/-- The stage of a projection: the values at one path, or objects with the values at several. -/
def Projection.render (p : Projection) : List CodePoint :=
  match p.paths with
  | [[]] => allItems
  | [path] => allItems ++ [.char '.'] ++ renderPath path
  | paths =>
      allItems ++ Text.toList ".\x7b" ++ (Text.toList ", ").intercalate (paths.map renderPair) ++
        [.char '\x7d']

/-! ## The whole query -/

/-- The head of a query without a filter: all items of an array, any other document itself. -/
def baseSelector (isArray : Bool) : List CodePoint := if isArray then allItems else ['@']

/-- The stages of a query. A projection selects all items itself, so it needs no head that does
nothing else. -/
def Spec.stages (isArray : Bool) (s : Spec) : Except TooLong (List (List CodePoint)) := do
  let head ← match s.filter with
    | some f => f.render
    | none => pure (baseSelector isArray)
  let stages := head :: (s.sort.map SortKey.render).toList
  return match s.projection with
    | none => stages
    | some p => (if stages = [allItems] then [] else stages) ++ [p.render]

/-- The query text of a specification, for a document that is an array or not. -/
def Spec.query (isArray : Bool) (s : Spec) : Except TooLong Text := do
  let stages ← s.stages isArray
  return Text.ofList ((Text.toList " | ").intercalate stages)

end Winnow
