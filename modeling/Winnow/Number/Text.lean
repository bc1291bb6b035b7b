import Winnow.Number.Shortest
import Winnow.Text.Decimal

/-!
# Numbers as text

How numbers are written and how decimal texts are read.

* `Number.write` — an integer in decimal, a float by its shortest digits in the layout `plain`.
* `FloatLayout` — where positional notation ends and what surrounds the digits.
* `digitLimit` — integers of more digits are neither read nor written.
* `readInt`, `readFloat` — the numbers that runs of digits write.
-/

namespace Winnow

/-! ## Writing -/

/-- The decisions of a layout of floats. -/
structure FloatLayout where
  /-- Exponents from here up to `positionalTo` are written positionally. -/
  positionalFrom : Int
  positionalTo : Int
  /-- What follows the digits of an integral value written positionally. -/
  integralMark : List CodePoint
  exponentMark : CodePoint
  /-- The least number of digits of an exponent. -/
  exponentWidth : Nat
  infinity : List CodePoint
  nan : List CodePoint

/-- The layout of documents: positional from 0.0001 to below 10^16, `.0` after integral values, an
exponent with its sign and at least two digits. -/
def FloatLayout.plain : FloatLayout where
  positionalFrom := -4
  positionalTo := 15
  integralMark := ['.', '0']
  exponentMark := 'e'
  exponentWidth := 2
  infinity := (Text.toList "Infinity")
  nan := (Text.toList "NaN")

namespace FloatLayout

/-- The exponent part. -/
def writeExponent (l : FloatLayout) (e : Int) : List CodePoint :=
  let digits := Text.decimal e.natAbs
  l.exponentMark :: (if e < 0 then '-' else '+') ::
    (Text.zeros (l.exponentWidth - digits.length) ++ digits)

/-- The decimal `0.d₁d₂… * 10 ^ point`, given by its digits. -/
def writeDigits (l : FloatLayout) (digits : List CodePoint) (point : Int) : List CodePoint :=
  let e := point - 1
  if e < l.positionalFrom ∨ l.positionalTo < e then
    match digits with
    | [d] => d :: l.writeExponent e
    | d :: ds => d :: '.' :: (ds ++ l.writeExponent e)
    | [] => []
  else if point ≤ 0 then '0' :: '.' :: (Text.zeros (-point).toNat ++ digits)
  else
    let whole := digits.take point.toNat
    let fraction := digits.drop point.toNat
    if fraction.isEmpty then
      whole ++ Text.zeros (point.toNat - digits.length) ++ l.integralMark
    else whole ++ .char '.' :: fraction

/-- A float in a layout; a negative zero keeps its sign. -/
def write (l : FloatLayout) (x : Float) : List CodePoint :=
  match Parts.ofFloat x with
  | .nan => l.nan
  | .infinite negative => if negative then '-' :: l.infinity else l.infinity
  | .finite negative m q =>
      let body : List CodePoint :=
        if m = 0 then '0' :: l.integralMark
        else
          let (d, k) := Shortest.shortest m q
          let digits := Text.decimal d
          l.writeDigits digits (digits.length + k)
      if negative then '-' :: body else body

end FloatLayout

/-- An integer in decimal. -/
def writeInt (n : Int) : List CodePoint :=
  if n < 0 then '-' :: Text.decimal n.natAbs else Text.decimal n.natAbs

/-- Integers of more decimal digits than this are neither read nor written. -/
def digitLimit : Nat := 4300

/-- An integer has more than `digitLimit` digits. -/
structure TooLong where
  /-- The number of digits of a text that was to be read, if one was. -/
  digits : Option Nat
  deriving DecidableEq, Inhabited

/-- What is said of an integer with too many digits. -/
def TooLong.message (e : TooLong) : Text :=
  let limit := toString digitLimit
  let seen := match e.digits with
    | some n => ": value has " ++ toString n ++ " digits"
    | none => ""
  "Exceeds the limit (" ++ limit ++ " digits) for integer string conversion" ++ seen ++
    "; use sys.set_int_max_str_digits() to increase the limit"

/-- A number as text. -/
def Number.write : Number → Except TooLong (List CodePoint)
  | .int n => if n.natAbs < Nat.pow 10 digitLimit then .ok (writeInt n) else .error ⟨none⟩
  | .float x => .ok (FloatLayout.plain.write x)
  | .undefined _ => .ok FloatLayout.plain.nan

/-! ## Reading -/

/-- The number that a list of decimal digits writes. -/
def digitsValue (digits : List CodePoint) : Nat :=
  digits.foldl (fun value c => 10 * value + (c.toNat - 48)) 0

/-- A sign at the head of a text, and what follows it. -/
def splitSign : List CodePoint → Bool × List CodePoint
  | '-' :: rest => (true, rest)
  | '+' :: rest => (false, rest)
  | s => (false, s)

/-- The integer with the given sign and digits. -/
def readInt (negative : Bool) (digits : List CodePoint) : Except TooLong Int :=
  if digitLimit < digits.length then .error ⟨some digits.length⟩
  else
    let n : Int := digitsValue digits
    .ok (if negative then -n else n)

/-- The float nearest to `0.whole fraction * 10 ^ exponent` with its sign, where the digits of the
whole part come first. Values outside the range of floats are told from the number of digits, so
that no large power of ten is formed for them. -/
def readFloat (negative : Bool) (whole fraction : List CodePoint) (exponent : Int) : Float :=
  let digits := (whole ++ fraction).dropWhile (· = .char '0')
  let power := exponent - fraction.length
  let magnitude : Float :=
    if digits.isEmpty then 0.0
    else if 310 < digits.length + power then 1.0 / 0.0
    else if digits.length + power < -330 then 0.0
    else Float.ofScientific (digitsValue digits) (power < 0) power.natAbs
  if negative then -magnitude else magnitude

end Winnow
