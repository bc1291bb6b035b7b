import Winnow.Json.Value
import Winnow.Number.Text
import Winnow.Text.Hex

/-!
# Reading JSON text

A reader over lists of code points. Each reading function returns what it has read and the rest, so
that a reader of a larger thing is the composition of readers of its parts.

* `readParts`, `combineParts` — the body of a string, in parts and as code points.
* `readNumber` — an integer, or a float if there is a fraction or an exponent.
* `readValue` — one value.
* `readL` — a whole text that holds one value and blank space around it.
-/

namespace Winnow.Json

/-- Why a text is not read. -/
inductive ReadError where
  /-- It is not JSON text. -/
  | malformed
  /-- It holds an integer of too many digits. -/
  | tooLong (cause : TooLong)
  /-- An array or an object stands too deep in others. -/
  | tooDeep (what : Nesting)
  deriving DecidableEq, Inhabited

/-- What is said of values that stand too deep in each other. -/
def Nesting.tooDeepMessage (what : Nesting) : Text :=
  let name := match what with
    | .array => "array"
    | .object => "object"
  "maximum recursion depth exceeded while decoding a JSON " ++ name ++ " from a unicode string"

/-- What is said of a text that is not read, where more is said than that it is not JSON text. -/
def ReadError.message? : ReadError → Option Text
  | malformed => none
  | tooLong cause => some cause.message
  | tooDeep what => some what.tooDeepMessage

/-- The blank space that may surround the parts of a JSON text. -/
def isSpace (c : CodePoint) : Bool :=
  c = ' ' || c = '\t' || c = '\n' || c = '\r'

/-- What follows leading blank space. -/
def skipSpace (s : List CodePoint) : List CodePoint := s.dropWhile isSpace

/-! ## Strings -/

/-- A part of a string. -/
inductive Part where
  /-- A code point as it stands, or the one of a one-letter escape. -/
  | plain (c : CodePoint)
  /-- A code unit, written by its number. -/
  | unit (n : Nat)
  deriving DecidableEq, Inhabited

/-- The character that a one-letter escape stands for. -/
def escapeChar? (c : CodePoint) : Option Char :=
  match c with
  | '"' => some '"'
  | '\\' => some '\\'
  | '/' => some '/'
  | 'b' => some '\x08'
  | 'f' => some '\x0C'
  | 'n' => some '\n'
  | 'r' => some '\r'
  | 't' => some '\t'
  | _ => none

/-- The parts of a string after its opening quote, and what follows its closing quote. Control
characters have to be escaped. -/
def readParts : List CodePoint → Option (List Part × List CodePoint)
  | [] => none
  | '"' :: rest => some ([], rest)
  | '\\' :: 'u' :: a :: b :: c :: d :: rest =>
      match Text.hexNumber? [a, b, c, d], readParts rest with
      | some n, some (parts, rest) => some (.unit n :: parts, rest)
      | _, _ => none
  | '\\' :: c :: rest =>
      match escapeChar? c, readParts rest with
      | some c, some (parts, rest) => some (.plain c :: parts, rest)
      | _, _ => none
  | c :: rest =>
      if c.toNat < 0x20 || c = '\\' then none
      else match readParts rest with
        | some (parts, rest) => some (.plain c :: parts, rest)
        | none => none

/-- Whether a code unit is the first half of a pair. -/
def isHighHalf (n : Nat) : Bool := 0xD800 ≤ n && n ≤ 0xDBFF

/-- Whether a code unit is the second half of a pair. -/
def isLowHalf (n : Nat) : Bool := 0xDC00 ≤ n && n ≤ 0xDFFF

/-- The code points of the parts of a string. The two halves of a pair make one character if both
are written by their numbers; any other half stands for itself. -/
def combineParts : List Part → List CodePoint
  | .unit high :: .unit low :: rest =>
      if isHighHalf high && isLowHalf low then
        CodePoint.ofNat (0x10000 + (high - 0xD800) * 0x400 + (low - 0xDC00)) :: combineParts rest
      else CodePoint.ofNat high :: combineParts (.unit low :: rest)
  | .unit n :: rest => CodePoint.ofNat n :: combineParts rest
  | .plain c :: rest => c :: combineParts rest
  | [] => []

/-- A string after its opening quote. -/
def readString (s : List CodePoint) : Option (Text × List CodePoint) :=
  (readParts s).map fun (parts, rest) => (Text.ofList (combineParts parts), rest)

/-! ## Numbers -/

/-- A fraction: a point and at least one digit. -/
def readFraction : List CodePoint → Option (List CodePoint × List CodePoint)
  | '.' :: rest =>
      let digits := rest.takeWhile CodePoint.isDigit
      if digits.isEmpty then none else some (digits, rest.dropWhile CodePoint.isDigit)
  | _ => none

/-- The digits of an exponent with the sign already read. -/
def readExponentDigits (negative : Bool) (s : List CodePoint) : Option (Int × List CodePoint) :=
  let digits := s.takeWhile CodePoint.isDigit
  if digits.isEmpty then none
  else
    let n : Int := digitsValue digits
    some (if negative then -n else n, s.dropWhile CodePoint.isDigit)

/-- An exponent: a letter, perhaps a sign, and at least one digit. -/
def readExponent : List CodePoint → Option (Int × List CodePoint)
  | c :: rest =>
      if c = 'e' || c = 'E' then
        match rest with
        | '-' :: rest => readExponentDigits true rest
        | '+' :: rest => readExponentDigits false rest
        | _ => readExponentDigits false rest
      else none
  | [] => none

/-- What may follow the whole part of a number decides whether it is an integer or a float. -/
def readNumberFrom (negative : Bool) (whole rest : List CodePoint) :
    Except ReadError (Number × List CodePoint) :=
  match readFraction rest with
  | some (fraction, rest) =>
      let (exponent, rest) := (readExponent rest).getD (0, rest)
      .ok (.float (readFloat negative whole fraction exponent), rest)
  | none =>
      match readExponent rest with
      | some (exponent, rest) => .ok (.float (readFloat negative whole [] exponent), rest)
      | none =>
          match readInt negative whole with
          | .ok n => .ok (.int n, rest)
          | .error e => .error (.tooLong e)

/-- A number without its sign: no digit follows a leading zero. -/
def readMagnitude (negative : Bool) : List CodePoint → Except ReadError (Number × List CodePoint)
  | '0' :: rest => readNumberFrom negative ['0'] rest
  | c :: rest =>
      if c.isDigit then
        readNumberFrom negative (c :: rest.takeWhile CodePoint.isDigit)
          (rest.dropWhile CodePoint.isDigit)
      else .error .malformed
  | [] => .error .malformed

/-- A number. The words for infinities and for what is not a number are numbers too. -/
def readNumber : List CodePoint → Except ReadError (Number × List CodePoint)
  | 'N' :: 'a' :: 'N' :: rest => .ok (.float (0.0 / 0.0), rest)
  | 'I' :: 'n' :: 'f' :: 'i' :: 'n' :: 'i' :: 't' :: 'y' :: rest => .ok (.float (1.0 / 0.0), rest)
  | '-' :: 'I' :: 'n' :: 'f' :: 'i' :: 'n' :: 'i' :: 't' :: 'y' :: rest =>
      .ok (.float (-1.0 / 0.0), rest)
  | '-' :: rest => readMagnitude true rest
  | rest => readMagnitude false rest

/-! ## Values -/

/-- How many arrays and objects may stand in each other inside one that is entered where `room`
may. -/
def enter (room : Nat) (what : Nesting) : Except ReadError Nat :=
  match room with
  | 0 => .error (.tooDeep what)
  | room + 1 => .ok room

mutual

/-- The value at the head of a text, in which `room` arrays and objects may stand in each other. The
first argument bounds the depth of the recursion; twice the length of the text is enough. -/
def readValue : Nat → Nat → List CodePoint → Except ReadError (Document × List CodePoint)
  | 0, _, _ => .error .malformed
  | depth + 1, room, s =>
      match s with
      | '"' :: rest =>
          match readString rest with
          | some (t, rest) => .ok (.text t, rest)
          | none => .error .malformed
      | '[' :: rest => do
          let room ← enter room .array
          match skipSpace rest with
          | ']' :: rest => return (.array [], rest)
          | rest =>
              let (items, rest) ← readItems depth room rest
              return (.array items, rest)
      | '\x7b' :: rest => do
          let room ← enter room .object
          match skipSpace rest with
          | '\x7d' :: rest => return (.object [], rest)
          | rest =>
              let (pairs, rest) ← readPairs depth room rest
              return (.object (Entries.ofPairs pairs), rest)
      | 'n' :: 'u' :: 'l' :: 'l' :: rest => .ok (.null, rest)
      | 't' :: 'r' :: 'u' :: 'e' :: rest => .ok (.bool true, rest)
      | 'f' :: 'a' :: 'l' :: 's' :: 'e' :: rest => .ok (.bool false, rest)
      | _ => do
          let (n, rest) ← readNumber s
          return (.number n, rest)

/-- The items of an array that is not empty, up to its closing bracket. -/
def readItems : Nat → Nat → List CodePoint → Except ReadError (List Document × List CodePoint)
  | 0, _, _ => .error .malformed
  | depth + 1, room, s => do
      let (item, rest) ← readValue depth room s
      match skipSpace rest with
      | ',' :: rest =>
          let (items, rest) ← readItems depth room (skipSpace rest)
          return (item :: items, rest)
      | ']' :: rest => return ([item], rest)
      | _ => .error .malformed

/-- The keys and values of an object that is not empty, up to its closing brace. -/
def readPairs :
    Nat → Nat → List CodePoint → Except ReadError (List (Text × Document) × List CodePoint)
  | 0, _, _ => .error .malformed
  | depth + 1, room, s =>
      match s with
      | '"' :: rest =>
          match readString rest with
          | none => .error .malformed
          | some (key, rest) =>
              match skipSpace rest with
              | ':' :: rest => do
                  let (value, rest) ← readValue depth room (skipSpace rest)
                  match skipSpace rest with
                  | ',' :: rest =>
                      let (pairs, rest) ← readPairs depth room (skipSpace rest)
                      return ((key, value) :: pairs, rest)
                  | '\x7d' :: rest => return ([(key, value)], rest)
                  | _ => .error .malformed
              | _ => .error .malformed
      | _ => .error .malformed

end

/-- The value that a whole text writes, in which `room` arrays and objects may stand in each
other. -/
def readL (room : Nat) (s : List CodePoint) : Except ReadError Document := do
  let (value, rest) ← readValue (2 * s.length + 2) room (skipSpace s)
  if (skipSpace rest).isEmpty then return value else .error .malformed

end Winnow.Json
