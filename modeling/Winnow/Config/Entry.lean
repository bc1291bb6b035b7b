import Winnow.Config.Error
import Winnow.Config.Tree
import Winnow.Spec.Basic

/-!
# Reading entries

Each reader takes a value and the full dotted key under which it stands, so that an error can name
the entry.

* `asMapping`, `asText`, `asBool`, `asInt`, `asTexts`, `asPath`, `asScalar` — values of one kind.
* `required`, `optionalSection`, `requiredSection` — entries of a mapping.

Section 5.2 of the DocQuery specification: the types of the entries.
-/

namespace Winnow.Config

/-- Reading that may find something wrong. -/
abbrev Read := Except SettingError

/-! ## Values -/

/-- A mapping. -/
def asMapping (key : Text) : Tree → Read Mapping
  | .mapping entries => .ok entries
  | _ => .error (.wrongKind key .object)

/-- A text. -/
def asText (key : Text) : Tree → Read Text
  | .text s => .ok s
  | _ => .error (.wrongKind key .string)

/-- A boolean. -/
def asBool (key : Text) : Tree → Read Bool
  | .bool b => .ok b
  | _ => .error (.wrongKind key .boolean)

/-- An integer; a boolean is none. -/
def asInt (key : Text) : Tree → Read Int
  | .number (.int n) => .ok n
  | _ => .error (.wrongKind key .integer)

/-- A value without parts. -/
def asScalar (key : Text) : Tree → Read Scalar
  | .null => .ok .null
  | .bool b => .ok (.bool b)
  | .number n => .ok (.number n)
  | .text s => .ok (.text s)
  | _ => .error (.wrongKind key .scalar)

/-- The key of an item of a list. -/
def itemKey (key : Text) (i : Nat) : Text := key ++ "[" ++ toString i ++ "]"

/-- The items of a list from the position `i` on, each read by `item`. -/
def asItems {β : Type} (item : Text → Tree → Read β) (key : Text) (i : Nat) :
    List Tree → Read (List β)
  | [] => .ok []
  | x :: rest => do
      let first ← item (itemKey key i) x
      let others ← asItems item key (i + 1) rest
      return first :: others

/-- A list, each item read by `item`. -/
def asList {β : Type} (item : Text → Tree → Read β) (key : Text) : Tree → Read (List β)
  | .list items => asItems item key 0 items
  | _ => .error (.wrongKind key .list)

/-- A list of texts. -/
def asTexts (key : Text) (value : Tree) : Read (List Text) := asList asText key value

/-- A path: a list of its segments, a text for a path of one segment, or nothing for the item
itself. -/
def asPath (key : Text) : Option Tree → Read FieldPath
  | none => .ok []
  | some .null => .ok []
  | some (.text s) => .ok [s]
  | some value => asTexts key value

/-! ## Entries -/

/-- The value of a required entry; null is a value. -/
def required (entries : Mapping) (name key : Text) : Read Tree :=
  match Mapping.get? entries name with
  | some value => .ok value
  | none => .error (.missing key)

/-- A section that may be missing or null. -/
def optionalSection (root : Mapping) (name : Text) : Read Mapping :=
  match Mapping.get? root name with
  | none => .ok []
  | some .null => .ok []
  | some value => asMapping name value

/-- A section that may be neither missing nor null. -/
def requiredSection (root : Mapping) (name : Text) : Read Mapping :=
  match Mapping.get? root name with
  | none => .error (.missing name)
  | some .null => .error (.missing name)
  | some value => asMapping name value

/-- The value of an entry that is read by `reader`, or what stands in for a missing one. -/
def entryOr {β : Type} (reader : Text → Tree → Read β) (entries : Mapping) (name key : Text)
    (default : β) : Read β :=
  match Mapping.get? entries name with
  | some value => reader key value
  | none => .ok default

end Winnow.Config
