import Winnow.Text.Basic

/-!
# A place in a YAML text

* `Cursor` — what is left of a text, with the line and the column.
* `Cursor.start`, `Cursor.left` — the start of a text, and how much is left of it.
* `Cursor.peek`, `Cursor.next`, `Cursor.lineBreak` — looking ahead and going on.

Line endings have been joined before, so a carriage return is one line break of its own. The end of
the text reads as NUL, which no text of a configuration holds.
-/

namespace Winnow.Yaml

/-- Why a text is not read. -/
inductive ScanError where
  /-- It is not YAML. -/
  | malformed
  /-- An escape gives a number that no character has. -/
  | noCharacter (number : Nat)
  /-- Collections stand too deep in each other. -/
  | tooDeep
  deriving DecidableEq, Inhabited

/-- What is said of a text that is not read, where more is said than that it is not YAML. -/
def ScanError.message? : ScanError → Option Text
  | malformed => none
  | noCharacter number =>
      some (if number < Nat.pow 2 31 then "chr() arg not in range(0x110000)"
        else "Python int too large to convert to C int")
  | tooDeep => some "maximum recursion depth exceeded"

/-- Reading of a text that may turn out not to be YAML. -/
abbrev Scan := Except ScanError

/-- The failure of reading. -/
def malformed {α : Type} : Scan α := .error .malformed

/-- A place in a text. -/
structure Cursor where
  /-- What is left of the text. -/
  rest : List CodePoint
  /-- The number of characters of the whole text. -/
  size : Nat
  /-- The number of characters before the place. -/
  index : Nat := 0
  line : Nat := 0
  column : Nat := 0

/-- What stands for the end of a text. -/
def endMark : CodePoint := '\x00'

/-- Whether a character breaks a line. -/
def isBreak (c : CodePoint) : Bool :=
  c = '\n' || c = '\r' || c = '\x85' || c = '\u2028' || c = '\u2029'

/-- Whether a character ends a line. -/
def isLineEnd (c : CodePoint) : Bool := c = endMark || isBreak c

/-- Whether a character ends a word. -/
def isWordEnd (c : CodePoint) : Bool := c = ' ' || c = '\t' || isLineEnd c

namespace Cursor

/-- The start of a text. -/
def start (text : List CodePoint) : Cursor := { rest := text, size := text.length }

/-- The number of characters that are left. -/
def left (c : Cursor) : Nat := c.size - c.index

/-- The character `n` places ahead. -/
def peek (c : Cursor) (n : Nat := 0) : CodePoint := c.rest.getD n endMark

/-- The place after the next character. A byte order mark takes no column. -/
def next (c : Cursor) : Cursor :=
  match c.rest with
  | [] => c
  | x :: rest =>
      if isBreak x then
        { c with rest := rest, index := c.index + 1, line := c.line + 1, column := 0 }
      else
        let width := if x = '\uFEFF' then 0 else 1
        { c with rest := rest, index := c.index + 1, column := c.column + width }

/-- The place `n` characters on. -/
def skip : Nat → Cursor → Cursor
  | 0, c => c
  | n + 1, c => skip n c.next

/-- The characters up to the first that fails a test, and the place there. -/
def takeWhile (c : Cursor) (p : CodePoint → Bool) : List CodePoint × Cursor :=
  let taken := c.rest.takeWhile p
  (taken, c.skip taken.length)

/-- The place after all characters that meet a test. -/
def skipWhile (c : Cursor) (p : CodePoint → Bool) : Cursor := (c.takeWhile p).2

/-- The line break at a place as it counts in a text, and the place after it; nothing if there is
none. The separators of lines and paragraphs stay themselves. -/
def lineBreak (c : Cursor) : List CodePoint × Cursor :=
  let x := c.peek
  if x = '\u2028' || x = '\u2029' then ([x], c.next)
  else if isBreak x then (['\n'], c.next)
  else ([], c)

/-- The place after blanks and a comment. -/
def skipComment (c : Cursor) : Cursor :=
  let c := c.skipWhile (· = ' ')
  if c.peek = '#' then c.skipWhile (!isLineEnd ·) else c

/-- Whether three marks stand at a place as a word of their own. -/
def isMarkLine (c : Cursor) (mark : CodePoint) : Bool :=
  c.peek 0 = mark && c.peek 1 = mark && c.peek 2 = mark && isWordEnd (c.peek 3)

/-- Whether a document starts or ends at a place. -/
def isDocumentMark (c : Cursor) : Bool := c.isMarkLine '-' || c.isMarkLine '.'

end Cursor

end Winnow.Yaml
