import Winnow.Text.Decimal
import Winnow.Text.Hex

/-!
# Encoding

What leaves the program has to be encoded, and there is no encoding of a half that stands alone.

* `Fault` — the halves at which an encoding fails; `Fault.message` is what is said of them.
* `encode` — the characters of a text, as files and the standard output take them.
* `escaped` — the characters of a text with its halves spelled out, as the error stream takes them.
* `pathFault?`, `pathSize` — the encoding of paths, in which some halves stand for single bytes.
-/

namespace Winnow

/-- Whether a code point is a half. -/
def CodePoint.isHalf : CodePoint → Bool
  | char _ => false
  | half _ => true

namespace Text

/-! ## Faults -/

/-- A half that is not encoded, with the halves right after it. -/
structure Fault where
  /-- The number of code points before the half. -/
  position : Nat
  half : Fin 0x800
  /-- The number of halves after it. -/
  others : Nat
  deriving DecidableEq, Inhabited

/-- A half by its number, as messages spell it. -/
def spellHalf (n : Fin 0x800) : List CodePoint :=
  '\\' :: 'u' :: hexDigits 4 (CodePoint.firstHalf + n)

/-- What is said of halves that are not encoded. -/
def Fault.message (fault : Fault) : Text :=
  let place : Text := toString fault.position
  let which : Text :=
    if fault.others = 0 then
      "character '" ++ Text.ofList (spellHalf fault.half) ++ "' in position " ++ place
    else
      "characters in position " ++ place ++ "-" ++ toString (fault.position + fault.others)
  "'utf-8' codec can't encode " ++ which ++ ": surrogates not allowed"

/-- The first half that is not among those that pass, in what follows `position` code points. -/
def faultFrom (passes : Fin 0x800 → Bool) (position : Nat) : List CodePoint → Option Fault
  | [] => none
  | .char _ :: rest => faultFrom passes (position + 1) rest
  | .half n :: rest =>
      if passes n then faultFrom passes (position + 1) rest
      else some ⟨position, n, (rest.takeWhile CodePoint.isHalf).length⟩

/-! ## Files and streams -/

/-- The characters of a text, without its halves. -/
def characters (s : Text) : String := String.ofList (s.toList.filterMap CodePoint.char?)

/-- The characters of a text that is to be encoded without exception. -/
def encode (s : Text) : Except Fault String :=
  match faultFrom (fun _ => false) 0 s.toList with
  | some fault => .error fault
  | none => .ok s.characters

/-- A code point, spelled out if it is a half. -/
def escapedPoint : CodePoint → List CodePoint
  | .char c => [c]
  | .half n => spellHalf n

/-- A text with its halves spelled out. -/
def escaped (s : Text) : Text := ⟨s.toList.flatMap escapedPoint⟩

/-! ## Paths -/

/-- The halves that stand for the bytes of a path that are no characters. -/
def isByte (n : Fin 0x800) : Bool := 0x480 ≤ n.val && n.val < 0x500

/-- Why a path cannot be encoded. -/
def pathFault? (s : Text) : Option Fault := faultFrom isByte 0 s.toList

/-- The number of bytes of a code point in a path. -/
def pointSize : CodePoint → Nat
  | .char c => c.utf8Size
  | .half _ => 1

/-- The number of bytes of code points in a path. -/
def pointsSize : List CodePoint → Nat
  | [] => 0
  | c :: rest => pointSize c + pointsSize rest

/-- The number of bytes of a path. -/
def pathSize (s : Text) : Nat := pointsSize s.toList

end Text

end Winnow
