import Winnow.Text.Basic

/-!
# Blank characters

The characters that count as blank space around a word, and trimming.

* `isBlank` — the twenty-nine blank characters.
* `trimL`, `trim` — a text without the blanks at its two ends.
-/

namespace Winnow.Text

/-- The blank characters: the five ASCII ones from tab to carriage return, the four separators
from U+001C to U+001F, the space, next line, and the spaces and separators of Unicode. Zero-width
characters are not among them. -/
def isBlank (c : CodePoint) : Bool :=
  let n := c.toNat
  (0x09 ≤ n && n ≤ 0x0D) || (0x1C ≤ n && n ≤ 0x20) || n == 0x85 || n == 0xA0 || n == 0x1680 ||
    (0x2000 ≤ n && n ≤ 0x200A) || n == 0x2028 || n == 0x2029 || n == 0x202F || n == 0x205F ||
    n == 0x3000

/-- A list of characters without its leading and trailing blanks. -/
def trimL (s : List CodePoint) : List CodePoint :=
  ((s.dropWhile isBlank).reverse.dropWhile isBlank).reverse

/-- A text without its leading and trailing blanks. -/
def trim (s : Text) : Text :=
  Text.ofList (trimL s.toList)

/-- A text of blanks only, the empty one included. -/
def isAllBlank (s : Text) : Bool :=
  s.toList.all isBlank

end Winnow.Text
