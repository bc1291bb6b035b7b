import Winnow.Json.Value
import Winnow.Number.Text
import Winnow.Text.Hex

/-!
# Writing JSON text

* `Layout` — the marks between items and after keys, the indentation, the escaping of what is not
  ASCII, and which values there is room for.
* `writeString` — a string between quotes.
* `WritableKey` — how the keys of objects are written.
* `writeValue`, `write` — a value, if it holds no reference, no integer of too many digits and
  nothing that stands too deep, and if there is room for it.
-/

namespace Winnow.Json

/-- Why a value has no text. -/
inductive WriteError where
  /-- It holds an integer of too many digits. -/
  | tooLong (cause : TooLong)
  /-- It holds a reference. -/
  | reference
  /-- An object has a reference for a key. -/
  | referenceKey
  /-- An array or an object stands too deep in others; `indented` tells the layout. -/
  | tooDeep (indented : Bool)
  /-- The number of blanks per level is too large to count with. -/
  | uncountable
  /-- There is no memory for the text. -/
  | noMemory
  deriving DecidableEq, Inhabited

/-- What is said of a value that has no text. -/
def WriteError.message : WriteError → Text
  | tooLong cause => cause.message
  | reference => "Object of type _Expression is not JSON serializable"
  | referenceKey => "keys must be str, int, float, bool or None, not _Expression"
  | tooDeep false => "maximum recursion depth exceeded while encoding a JSON object"
  | tooDeep true => "maximum recursion depth exceeded while calling a Python object"
  | uncountable => "cannot fit 'int' into an index-sized integer"
  | noMemory => ""

/-- The decisions of a layout, and what there is room for. -/
structure Layout (κ α : Type) where
  /-- The number of blanks per level if every item stands on a line of its own. -/
  indent : Option Nat
  itemMark : List CodePoint
  keyMark : List CodePoint
  /-- Whether characters outside ASCII are escaped. -/
  asciiOnly : Bool
  /-- Whether an array or an object is written that stands in so many others. -/
  enters : Nat → Value κ α → Bool
  /-- Whether there is memory for the text of a value. -/
  holds : Value κ α → Bool

namespace Layout

variable {κ α : Type}

/-- One line without blanks, in ASCII, where `room` arrays and objects may stand in each other. -/
def compact (room : Nat) : Layout κ α where
  indent := none
  itemMark := [',']
  keyMark := [':']
  asciiOnly := true
  enters := fun level _ => level < room
  holds := fun _ => true

/-- The line break before an item at a level. -/
def lineBreak (l : Layout κ α) (level : Nat) : List CodePoint :=
  match l.indent with
  | none => []
  | some width => '\n' :: List.replicate (width * level) ' '

/-- Sizes are counted with 63 bits. -/
def countLimit : Nat := Nat.pow 2 63

/-- Checks that the blanks of a level can be counted. -/
def checkIndent (l : Layout κ α) : Except WriteError Unit :=
  match l.indent with
  | none => .ok ()
  | some width => if countLimit ≤ width then .error .uncountable else .ok ()

/-- Goes into an array or an object that stands in `level` others. -/
def enter (l : Layout κ α) (level : Nat) (v : Value κ α) : Except WriteError Unit :=
  if l.enters level v then .ok () else .error (.tooDeep l.indent.isSome)

/-- Checks that there is memory for the text of a value. -/
def checkMemory (l : Layout κ α) (v : Value κ α) : Except WriteError Unit :=
  if l.holds v then .ok () else .error .noMemory

end Layout

/-! ## Strings -/

/-- An escaped code unit. -/
def writeUnit (n : Nat) : List CodePoint := '\\' :: 'u' :: Text.hexDigits 4 n

/-- The written form of a character inside a string. -/
def writeChar (asciiOnly : Bool) (c : CodePoint) : List CodePoint :=
  match c with
  | '"' => ['\\', '"']
  | '\\' => ['\\', '\\']
  | '\n' => ['\\', 'n']
  | '\r' => ['\\', 'r']
  | '\t' => ['\\', 't']
  | '\x08' => ['\\', 'b']
  | '\x0C' => ['\\', 'f']
  | c =>
      let n := c.toNat
      if n < 0x20 then writeUnit n
      else if !asciiOnly || n < 0x7F then [c]
      else if n < 0x10000 then writeUnit n
      else
        writeUnit (0xD800 + (n - 0x10000) / 0x400) ++ writeUnit (0xDC00 + (n - 0x10000) % 0x400)

/-- A string between quotes. -/
def writeString (asciiOnly : Bool) (s : List CodePoint) : List CodePoint :=
  '"' :: (s.flatMap (writeChar asciiOnly) ++ [.char '"'])

/-! ## Values -/

/-- Keys that can be written. -/
class WritableKey (κ : Type) where
  /-- The text of a key. -/
  keyText : κ → Except WriteError (List CodePoint)

/-- A text is written as it is. -/
instance : WritableKey Text where
  keyText key := .ok key.toList

variable {κ α : Type} [WritableKey κ]

/-- A key with the mark after it. -/
def writeKey (l : Layout κ α) (key : κ) : Except WriteError (List CodePoint) := do
  return writeString l.asciiOnly (← WritableKey.keyText key) ++ l.keyMark

mutual

/-- A value inside `level` arrays and objects. -/
def writeValue (l : Layout κ α) (level : Nat) : Value κ α → Except WriteError (List CodePoint)
  | .null => .ok (Text.toList "null")
  | .bool true => .ok (Text.toList "true")
  | .bool false => .ok (Text.toList "false")
  | .number n => n.write.mapError WriteError.tooLong
  | .text s => .ok (writeString l.asciiOnly s.toList)
  | .array [] => do
      l.enter level (.array ([] : List (Value κ α)))
      return ['[', ']']
  | .array (item :: items) => do
      l.enter level (.array (item :: items))
      let first ← writeValue l (level + 1) item
      let others ← writeItems l (level + 1) items
      return '[' :: (l.lineBreak (level + 1) ++ first ++ others ++ l.lineBreak level ++ [.char ']'])
  | .object [] => do
      l.enter level (.object ([] : Entries κ α))
      return ['\x7b', '\x7d']
  | .object ((key, value) :: entries) => do
      l.enter level (.object ((key, value) :: entries))
      let name ← writeKey l key
      let first ← writeValue l (level + 1) value
      let others ← writeEntries l (level + 1) entries
      return '\x7b' :: (l.lineBreak (level + 1) ++ name ++ first ++ others ++ l.lineBreak level ++
        [.char '\x7d'])
  | .reference _ => .error .reference

/-- The items of an array after the first. -/
def writeItems (l : Layout κ α) (level : Nat) :
    List (Value κ α) → Except WriteError (List CodePoint)
  | [] => .ok []
  | item :: items => do
      let first ← writeValue l level item
      let others ← writeItems l level items
      return l.itemMark ++ l.lineBreak level ++ first ++ others

/-- The entries of an object after the first. -/
def writeEntries (l : Layout κ α) (level : Nat) :
    List (κ × Value κ α) → Except WriteError (List CodePoint)
  | [] => .ok []
  | (key, value) :: entries => do
      let name ← writeKey l key
      let first ← writeValue l level value
      let others ← writeEntries l level entries
      return l.itemMark ++ l.lineBreak level ++ name ++ first ++ others

end

/-- A value as text. A text alone needs no indentation. -/
def write (l : Layout κ α) (v : Value κ α) : Except WriteError Text :=
  match v with
  | .text s => .ok (Text.ofList (writeString l.asciiOnly s.toList))
  | v => do
      l.checkIndent
      l.checkMemory v
      return Text.ofList (← writeValue l 0 v)

end Winnow.Json
