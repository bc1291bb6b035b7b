import Winnow.Text.Basic

/-!
# Hexadecimal digits

* `hexDigit`, `hexDigits` — lower-case hexadecimal writing, to a fixed number of digits.
* `hexValue?`, `hexNumber?` — reading, in either case.
-/

namespace Winnow.Text

/-- The lower-case hexadecimal digit of a number below sixteen. -/
def hexDigit (n : Nat) : CodePoint :=
  .char (Char.ofNat (if n < 10 then 48 + n else 87 + n))

/-- The last `width` hexadecimal digits of `n`, the most significant first. -/
def hexDigits : Nat → Nat → List CodePoint
  | 0, _ => []
  | width + 1, n => hexDigits width (n / 16) ++ [hexDigit (n % 16)]

/-- The value of a hexadecimal digit. -/
def hexValue? (c : CodePoint) : Option Nat :=
  if '0' ≤ c && c ≤ '9' then some (c.toNat - 48)
  else if 'a' ≤ c && c ≤ 'f' then some (c.toNat - 87)
  else if 'A' ≤ c && c ≤ 'F' then some (c.toNat - 55)
  else none

/-- The number that a list of hexadecimal digits writes. -/
def hexNumber? (s : List CodePoint) : Option Nat :=
  s.foldl (fun acc c => acc.bind fun n => (hexValue? c).map (16 * n + ·)) (some 0)

end Winnow.Text
