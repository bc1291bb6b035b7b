import Winnow.Number.Text
import Winnow.Text.Blank

/-!
# Scalars and their classification

A filter compares with a scalar. Scalars that were typed in arrive as text; `Scalar.classify` takes
a text for the most specific scalar that it spells.

* `numberOfText?` — the number that a text spells: an optional sign and digits, with at most one
  point before, between or after them.
* `Scalar.classify` — a number, else a keyword, else the text as it is.

Sections 3 and 4.2 of the DocQuery specification: `Value`, `parse_literal`.
-/

namespace Winnow

/-- A value without parts. -/
inductive Scalar where
  | null
  | bool (b : Bool)
  | number (n : Number)
  | text (s : Text)
  deriving DecidableEq, Inhabited

/-- The number that a text without blanks spells, if it spells one. A point makes it a float. -/
def numberOfText? (s : List CodePoint) : Option (Except TooLong Number) :=
  let (negative, unsigned) := splitSign s
  let whole := unsigned.takeWhile CodePoint.isDigit
  match unsigned.dropWhile CodePoint.isDigit with
  | [] => if whole.isEmpty then none else some ((readInt negative whole).map Number.int)
  | '.' :: fraction =>
      if fraction.all CodePoint.isDigit && !(whole.isEmpty && fraction.isEmpty) then
        some (.ok (.float (readFloat negative whole fraction 0)))
      else none
  | _ => none

/-- The scalar that a text spells. Blanks around a number or a keyword do not count; any other text
stays as it is, with its blanks. -/
def Scalar.classify (text : Text) : Except TooLong Scalar :=
  let trimmed := Text.trimL text.toList
  match numberOfText? trimmed with
  | some n => n.map Scalar.number
  | none =>
      if trimmed = Text.toList "null" then .ok .null
      else if trimmed = Text.toList "true" then .ok (.bool true)
      else if trimmed = Text.toList "false" then .ok (.bool false)
      else .ok (.text text)

end Winnow
