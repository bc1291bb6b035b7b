import Winnow.Text.Basic

/-!
# Decimal writing

* `decimal` — the digits of a number.
* `padded` — the same, with zeros before them up to a width.
-/

namespace Winnow.Text

/-- The decimal digits of a number, the most significant first. -/
def decimal (n : Nat) : List CodePoint := (Nat.toDigits 10 n).map .char

/-- Zeros. -/
def zeros (count : Nat) : List CodePoint := List.replicate count '0'

/-- A number in decimal, with zeros before it up to a width. -/
def padded (width n : Nat) : Text :=
  Text.ofList (zeros (width - (decimal n).length) ++ decimal n)

end Winnow.Text
