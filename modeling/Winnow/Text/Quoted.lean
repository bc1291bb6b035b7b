import Winnow.Text.Hex
import Winnow.Text.Printable

/-!
# Quoted text in messages

How a message shows a text: between quotes, on one line, with everything unprintable escaped.

* `quote` — one text.
* `quoteList` — a list of texts between brackets.
-/

namespace Winnow.Text

/-- The quote that surrounds a text: the single one, unless the text holds single quotes and no
double ones. -/
def quoteMark (s : List CodePoint) : CodePoint :=
  if s.contains '\'' && !s.contains '"' then '"' else '\''

/-- The shown form of one character between the given quotes. -/
def quoteChar (mark c : CodePoint) : List CodePoint :=
  if c = mark || c = '\\' then ['\\', c]
  else if c = '\n' then ['\\', 'n']
  else if c = '\r' then ['\\', 'r']
  else if c = '\t' then ['\\', 't']
  else if isPrintable c then [c]
  else if c.toNat < 0x100 then '\\' :: 'x' :: hexDigits 2 c.toNat
  else if c.toNat < 0x10000 then '\\' :: 'u' :: hexDigits 4 c.toNat
  else '\\' :: 'U' :: hexDigits 8 c.toNat

/-- The shown form of a list of characters. -/
def quoteL (s : List CodePoint) : List CodePoint :=
  let mark := quoteMark s
  mark :: s.flatMap (quoteChar mark) ++ [mark]

/-- The shown form of a text. -/
def quote (s : Text) : Text :=
  Text.ofList (quoteL s.toList)

/-- The shown form of a list of texts. -/
def quoteList (items : List Text) : Text :=
  "[" ++ Text.intercalate ", " (items.map quote) ++ "]"

end Winnow.Text
