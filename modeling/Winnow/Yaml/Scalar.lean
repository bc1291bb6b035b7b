import Winnow.Text.Hex
import Winnow.Yaml.Cursor
import Winnow.Yaml.Moment

/-!
# Plain scalars of YAML

What a scalar without quotes means: a boolean, a float, an integer, null, a moment, or else the
text that it is, told by its form in this order.

* `Plain` — the meanings.
* `Plain.ofText` — the meaning of a text.
-/

namespace Winnow.Yaml

/-- Why a text cannot be loaded. -/
inductive LoadError where
  /-- It is not YAML, or is nothing that can be loaded. -/
  | scan (cause : ScanError)
  /-- It holds an integer of too many digits. -/
  | tooLong (cause : TooLong)
  /-- It holds an integer of a base without digits. -/
  | noDigits (base : Nat)
  /-- It holds a number to the base sixty with too many places for a float. -/
  | tooLarge (cause : Number.TooLarge)
  /-- It holds a moment that does not exist. -/
  | moment (cause : MomentError)
  deriving DecidableEq, Inhabited

/-- A text that is not YAML. -/
def LoadError.malformed : LoadError := scan .malformed

/-- What is said of a text that cannot be loaded, where more is said than that it is not YAML. -/
def LoadError.message? : LoadError → Option Text
  | scan cause => cause.message?
  | tooLong cause => some cause.message
  | noDigits base => some ("invalid literal for int() with base " ++ toString base ++ ": ''")
  | tooLarge cause => some cause.message
  | moment cause => some cause.message

/-- The meaning of a plain scalar. -/
inductive Plain where
  | null
  | bool (b : Bool)
  | number (n : Number)
  | moment (m : Moment)
  /-- The mark `=`, which may only be a key. -/
  | equals
  | text

namespace Plain

/-! ## Words -/

/-- The words for true. -/
def trueWords : List Text :=
  ["yes", "Yes", "YES", "true", "True", "TRUE", "on", "On", "ON"]

/-- The words for false. -/
def falseWords : List Text :=
  ["no", "No", "NO", "false", "False", "FALSE", "off", "Off", "OFF"]

/-- The words for null. -/
def nullWords : List Text := ["~", "null", "Null", "NULL", ""]

/-- The boolean of a word. -/
def bool? (s : Text) : Option Bool :=
  if s ∈ trueWords then some true else if s ∈ falseWords then some false else none

/-! ## Digits -/

/-- Whether a character is a digit or separates digits. -/
def isSpaced (p : CodePoint → Bool) (c : CodePoint) : Bool := p c || c = '_'

/-- Digits without what separates them. -/
def dense (s : List CodePoint) : List CodePoint := s.filter (· ≠ '_')

/-- Whether a text starts with a digit that meets a test. -/
def startsWith (p : CodePoint → Bool) (s : List CodePoint) : Bool := (s.head?.map p).getD false

/-- The groups after the first of a number to the base sixty: a colon and a number below sixty
each, of at most two digits. -/
def sixtieths? : Nat → List CodePoint → Option (List Nat × List CodePoint)
  | bound + 1, ':' :: rest =>
      let digits := rest.takeWhile CodePoint.isDigit
      let rest := rest.dropWhile CodePoint.isDigit
      match digits with
      | [d] => (sixtieths? bound rest).map fun (ds, rest) => (digitsValue [d] :: ds, rest)
      | [c, d] =>
          if c ≤ '5' then
            (sixtieths? bound rest).map fun (ds, rest) => (digitsValue [c, d] :: ds, rest)
          else none
      | _ => none
  | _, rest => some ([], rest)

/-! ## Floats -/

/-- An exponent with its sign that fills a text; none is zero. -/
def exponent? : List CodePoint → Option Int
  | [] => some 0
  | c :: rest =>
      if c = 'e' || c = 'E' then
        match rest with
        | s :: digits =>
            if (s = '+' || s = '-') && !digits.isEmpty && digits.all CodePoint.isDigit then
              let n : Int := digitsValue digits
              some (if s = '-' then -n else n)
            else none
        | [] => none
      else none

/-- A sum of places of a number to the base sixty, the least first; `weight` is that of the first.
Every weight is rounded for itself, and none may be too large for a float. -/
def sixtySum (sum : Float) (weight : Int) : List Float → Except Number.TooLarge Float
  | [] => .ok sum
  | digit :: rest => do
      let w ← (Number.int weight).toFloat
      sixtySum (sum + digit * w) (weight * 60) rest

/-- A float in base sixty: the digits of its last group go on behind a point. -/
def sixtyFloat (negative : Bool) (whole : List CodePoint) (groups : List Nat)
    (fraction : List CodePoint) :
    Except LoadError Float :=
  let last := readFloat false (Text.decimal (groups.getLastD 0)) fraction 0
  let inner := groups.dropLast.map Float.ofNat
  let places := (readFloat false whole [] 0 :: inner ++ [last]).reverse
  match sixtySum 0.0 1 places with
  | .ok sum => .ok (if negative then -1 * sum else sum)
  | .error cause => .error (.tooLarge cause)

/-- The float of a text: digits with a point, an exponent only with a sign; base sixty with a point;
or one of the words after a point. -/
def float? (s : List CodePoint) : Option (Except LoadError Float) :=
  let (negative, u) := splitSign s
  let signed := u.length ≠ s.length
  let whole := u.takeWhile (isSpaced CodePoint.isDigit)
  match u.dropWhile (isSpaced CodePoint.isDigit) with
  | '.' :: rest =>
      let fraction := rest.takeWhile (isSpaced CodePoint.isDigit)
      let tail := rest.dropWhile (isSpaced CodePoint.isDigit)
      if startsWith CodePoint.isDigit whole ||
          (whole.isEmpty && !signed && startsWith CodePoint.isDigit fraction) then
        (exponent? tail).map fun e => .ok (readFloat negative (dense whole) (dense fraction) e)
      else if whole.isEmpty &&
          (rest = Text.toList "inf" || rest = Text.toList "Inf" || rest = Text.toList "INF") then
        some (.ok (if negative then -1.0 / 0.0 else 1.0 / 0.0))
      else if whole.isEmpty && !signed &&
          (rest = Text.toList "nan" || rest = Text.toList "NaN" || rest = Text.toList "NAN") then
        some (.ok (0.0 / 0.0))
      else none
  | ':' :: rest =>
      if startsWith CodePoint.isDigit whole then
        match sixtieths? s.length (':' :: rest) with
        | some (groups, '.' :: fraction) =>
            if fraction.all (isSpaced CodePoint.isDigit) then
              some (sixtyFloat negative (dense whole) groups (dense fraction))
            else none
        | _ => none
      else none
  | _ => none

/-! ## Integers -/

/-- The number that digits of a base write. -/
def baseValue (base : Nat) (digits : List CodePoint) : Nat :=
  digits.foldl (fun n c => base * n + (Text.hexValue? c).getD 0) 0

/-- An integer of a base with a mark of its own. -/
def marked (negative : Bool) (base : Nat) (digits : List CodePoint) : Except LoadError Int :=
  if digits.isEmpty then .error (.noDigits base)
  else
    let n : Int := baseValue base digits
    .ok (if negative then -n else n)

/-- Whether a character is a binary digit. -/
def isBinary (c : CodePoint) : Bool := c = '0' || c = '1'

/-- Whether a character is an octal digit. -/
def isOctal (c : CodePoint) : Bool := '0' ≤ c && c ≤ '7'

/-- Whether a character is a hexadecimal digit. -/
def isHexadecimal (c : CodePoint) : Bool := (Text.hexValue? c).isSome

/-- The integer of a text: binary after `0b`, hexadecimal after `0x`, octal after a zero, decimal,
or to the base sixty. -/
def int? (s : List CodePoint) : Option (Except LoadError Int) :=
  let (negative, u) := splitSign s
  match u with
  | ['0'] => some (.ok 0)
  | '0' :: 'b' :: rest =>
      if !rest.isEmpty && rest.all (isSpaced isBinary) then some (marked negative 2 (dense rest))
      else none
  | '0' :: 'x' :: rest =>
      if !rest.isEmpty && rest.all (isSpaced isHexadecimal) then
        some (marked negative 16 (dense rest))
      else none
  | '0' :: rest =>
      if rest.all (isSpaced isOctal) then some (marked negative 8 ('0' :: dense rest)) else none
  | _ =>
      let whole := u.takeWhile (isSpaced CodePoint.isDigit)
      if startsWith CodePoint.isDigit whole then
        match u.dropWhile (isSpaced CodePoint.isDigit) with
        | [] => some ((readInt negative (dense whole)).mapError LoadError.tooLong)
        | rest =>
            match sixtieths? s.length rest with
            | some (groups, []) => some do
                let first ← (readInt false (dense whole)).mapError LoadError.tooLong
                let n := groups.foldl (fun (n : Int) (d : Nat) => 60 * n + d) first
                return if negative then -n else n
            | _ => none
      else none

/-! ## All meanings -/

/-- The meaning of a plain scalar. -/
def ofText (s : Text) : Except LoadError Plain :=
  match bool? s with
  | some b => .ok (.bool b)
  | none =>
      let cs := s.toList
      match float? cs, int? cs with
      | some x, _ => x.map fun x => .number (.float x)
      | none, some n => n.map fun n => .number (.int n)
      | none, none =>
          if s = "<<" then .error .malformed
          else if s ∈ nullWords then .ok .null
          else match MomentParts.ofText? cs with
            | some m => (m.moment.map Plain.moment).mapError LoadError.moment
            | none => .ok (if s = "=" then .equals else .text)

end Plain

end Winnow.Yaml
