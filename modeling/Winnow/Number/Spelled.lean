import Winnow.Number.Text
import Winnow.Text.Blank
import Winnow.Text.Digit

/-!
# Numbers as people spell them

The wide reading of numbers, by which text is turned into a number on request: blanks around it, a
sign, digits of any script, single underscores between digits, a fraction, an exponent, and the
words for infinity and for what is not a number.

* `Number.ofSpelling?` — an integer if the text spells one, else a float.
-/

namespace Winnow

/-- A blank in a spelled number; the four separators of ASCII do not count. -/
def isSpellingBlank (c : CodePoint) : Bool :=
  Text.isBlank c && !(0x1C ≤ c.toNat && c.toNat ≤ 0x1F)

/-- A digit of any script as an ASCII digit; any other character as it is. -/
def plainDigit (c : CodePoint) : CodePoint :=
  match Text.decimalValue? c with
  | some n => CodePoint.ofNat (48 + n)
  | none => c

/-- A text without blanks at its ends and with plain digits. -/
def plainSpelling (s : Text) : List CodePoint :=
  let trimmed := ((s.toList.dropWhile isSpellingBlank).reverse.dropWhile isSpellingBlank).reverse
  trimmed.map plainDigit

/-- A text without its underscores, each of which has to stand between two digits. The first
argument says whether the character before is a digit. -/
def dropUnderscores : Bool → List CodePoint → Option (List CodePoint)
  | _, [] => some []
  | afterDigit, '_' :: rest =>
      match rest with
      | c :: _ => if afterDigit && c.isDigit then dropUnderscores false rest else none
      | [] => none
  | _, c :: rest => (dropUnderscores c.isDigit rest).map (c :: ·)

/-- The exponent that a text after the digits spells; none is zero. -/
def spelledExponent? : List CodePoint → Option Int
  | [] => some 0
  | c :: rest =>
      if c = 'e' || c = 'E' then
        let (negative, digits) := splitSign rest
        if digits.isEmpty || !digits.all CodePoint.isDigit then none
        else
          let n : Int := digitsValue digits
          some (if negative then -n else n)
      else none

/-- The float that a text without blanks and underscores spells. -/
def spelledFloat? (s : List CodePoint) : Option Float :=
  let (negative, unsigned) := splitSign s
  let word := unsigned.map CodePoint.toLower
  if word = (Text.toList "inf") || word = (Text.toList "infinity") then
    some (if negative then -1.0 / 0.0 else 1.0 / 0.0)
  else if word = (Text.toList "nan") then some (0.0 / 0.0)
  else
    let whole := unsigned.takeWhile CodePoint.isDigit
    let (fraction, tail) := match unsigned.dropWhile CodePoint.isDigit with
      | '.' :: rest => (rest.takeWhile CodePoint.isDigit, rest.dropWhile CodePoint.isDigit)
      | rest => ([], rest)
    if whole.isEmpty && fraction.isEmpty then none
    else (spelledExponent? tail).map (readFloat negative whole fraction)

/-- The integer that a text without blanks and underscores spells, if it has not too many
digits. -/
def spelledInt? (s : List CodePoint) : Option Int :=
  let (negative, digits) := splitSign s
  if digits.isEmpty || !digits.all CodePoint.isDigit then none
  else (readInt negative digits).toOption

/-- The number that a text spells. -/
def Number.ofSpelling? (s : Text) : Option Number :=
  match dropUnderscores false (plainSpelling s) with
  | none => none
  | some t =>
      match spelledInt? t with
      | some n => some (.int n)
      | none => (spelledFloat? t).map .float

end Winnow
