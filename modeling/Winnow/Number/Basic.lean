import Winnow.Text.Basic

/-!
# Numbers

A number is an integer of any size or a 64-bit float. Both name points of one number line, and all
comparison happens there, so that an integer and a float compare by their exact values.

* `Number` — the kinds of number, and `Origin`, which tells the outcomes of computations apart.
* `Parts` — what the bits of a float say: a sign, a significand and a power of two.
* `Point` — a place on the number line with its two ends.
* `Number.eq`, `Number.lt`, `Number.le` — comparison; nothing holds of a float that is not a number.
* `Number.same` — equality, under which what is not a number is still the same as itself.
* `Number.add`, `Number.floor`, … — arithmetic.
* `nearestQuotient` — the float nearest to a quotient of integers.
-/

namespace Winnow

/-- Where in the course of a computation something was made: the numbers of the steps that lead
there, the last first. -/
abbrev Origin := List Nat

/-- A number of a document, or of what is computed from one. -/
inductive Number where
  /-- An integer of any size. -/
  | int (value : Int)
  /-- A 64-bit float. The float that is not a number is the one that texts denote. -/
  | float (value : Float)
  /-- The outcome of a computation that is not a number. Every computation has its own, which is
  the same as no other. -/
  | undefined (origin : Origin)
  deriving DecidableEq, Inhabited

/-! ## The bits of a float -/

/-- What a float stands for. -/
inductive Parts where
  /-- The value `significand * 2 ^ exponent` with its sign; zero has a sign too. -/
  | finite (negative : Bool) (significand : Nat) (exponent : Int)
  | infinite (negative : Bool)
  | nan
  deriving DecidableEq, Inhabited

/-- The parts of a float: one bit of sign, eleven of exponent, fifty-two of fraction. -/
def Parts.ofFloat (x : Float) : Parts :=
  let bits : Nat := x.toBits.toNat
  let negative := bits / Nat.pow 2 63 == 1
  let exponent : Nat := bits / Nat.pow 2 52 % Nat.pow 2 11
  let fraction : Nat := bits % Nat.pow 2 52
  if exponent = 0x7FF then
    if fraction = 0 then .infinite negative else .nan
  else if exponent = 0 then .finite negative fraction (-1074)
  else .finite negative (Nat.pow 2 52 + fraction) ((exponent : Int) - 1075)

/-! ## The number line -/

/-- A place on the number line with its two ends. -/
inductive Point where
  /-- Below every number. -/
  | below
  /-- At a number. -/
  | at (value : Dyadic)
  /-- Above every number. -/
  | above
  deriving DecidableEq

namespace Point

/-- The order of the number line. -/
def le : Point → Point → Bool
  | .below, _ => true
  | _, .above => true
  | .at x, .at y => decide (x ≤ y)
  | _, _ => false

/-- The strict order of the number line. -/
def lt (p q : Point) : Bool := !q.le p

/-- The place of a float, if it has one. -/
def ofParts : Parts → Option Point
  | .finite negative significand exponent =>
      let signed : Int := if negative then -(significand : Int) else significand
      some (.at (Dyadic.ofIntWithPrec signed (-exponent)))
  | .infinite true => some .below
  | .infinite false => some .above
  | .nan => none

end Point

namespace Number

/-- The place of a number on the number line; a float that is not a number has none. -/
def point? : Number → Option Point
  | .int n => some (.at (Dyadic.ofInt n))
  | .float x => Point.ofParts (Parts.ofFloat x)
  | .undefined _ => none

/-- A comparison of places, which fails for what has no place. -/
def compareBy (holds : Point → Point → Bool) (a b : Number) : Bool :=
  match a.point?, b.point? with
  | some p, some q => holds p q
  | _, _ => false

/-- Equality of value; an integer equals the float of the same value. -/
def eq : Number → Number → Bool := compareBy (fun p q => decide (p = q))

/-- Strict order of value. -/
def lt : Number → Number → Bool := compareBy Point.lt

/-- Order of value. -/
def le : Number → Number → Bool := compareBy Point.le

/-- Whether two numbers are the same: equal in value, or the same outcome that is not a number. -/
def same (m n : Number) : Bool :=
  m.eq n || match m, n with
    | .float x, .float y => x.isNaN && y.isNaN
    | .undefined a, .undefined b => a == b
    | _, _ => false

/-- The outcome of a computation: what is not a number becomes an outcome of its own. -/
def made (origin : Origin) : Number → Number
  | .int n => .int n
  | .float x => if x.isNaN then .undefined origin else .float x
  | .undefined _ => .undefined origin

/-! ## Arithmetic -/

/-- What exceeds the largest finite float. -/
inductive TooLarge where
  /-- An integer. -/
  | integer
  /-- The quotient of two integers. -/
  | quotient
  deriving DecidableEq, Inhabited

/-- What is said of a number that no float comes near. -/
def TooLarge.message : TooLarge → Text
  | integer => "int too large to convert to float"
  | quotient => "integer division result too large for a float"

/-- A float that has to be finite. -/
def finiteOr (cause : TooLarge) (x : Float) : Except TooLarge Float :=
  if x.isFinite then .ok x else .error cause

/-- The nearest float, if there is one. -/
def toFloat : Number → Except TooLarge Float
  | .int n => finiteOr .integer (Float.ofInt n)
  | .float x => .ok x
  | .undefined _ => .ok (0.0 / 0.0)

/-- The sum: exact of two integers, else that of the nearest floats. -/
def add : Number → Number → Except TooLarge Number
  | .int m, .int n => .ok (.int (m + n))
  | a, b => do
      let x ← a.toFloat
      let y ← b.toFloat
      return .float (x + y)

/-- The float nearest to a quotient, infinity if it is too large; both parts are positive. The
quotient is cut off after more binary digits than a float has, and an odd last digit stands for
whatever was cut off, so that rounding it is rounding the quotient. -/
def nearestQuotient (dividend divisor : Nat) : Float :=
  let shift : Int := 56 + Nat.log2 divisor - Nat.log2 dividend
  let numerator := dividend * Nat.pow 2 shift.toNat
  let denominator := divisor * Nat.pow 2 (-shift).toNat
  let digits := numerator / denominator
  let marked := if numerator % denominator = 0 then digits else digits ||| 1
  (Float.ofNat marked).scaleB (-shift)

/-- The quotient by a count that is not zero: of an integer the float nearest to it, of a float the
quotient of floats. -/
def divideBy (a : Number) (count : Nat) : Except TooLarge Float :=
  match a with
  | .int n =>
      if n = 0 then .ok 0.0
      else do
        let x ← finiteOr .quotient (nearestQuotient n.natAbs count)
        return if n < 0 then -x else x
  | a => do return (← a.toFloat) / Float.ofNat count

/-- The distance from zero. -/
def abs : Number → Number
  | .int n => .int n.natAbs
  | .float x => .float x.abs
  | .undefined origin => .undefined origin

/-- Why a float has no nearest integer. -/
inductive NotFinite where
  | infinite
  | nan
  deriving DecidableEq, Inhabited

/-- The integer below, or above when `up`, that is nearest to a number. -/
def round (up : Bool) : Number → Except NotFinite Int
  | .int n => .ok n
  | .float x =>
      match Parts.ofFloat x with
      | .infinite _ => .error .infinite
      | .nan => .error .nan
      | .finite negative significand exponent =>
          let signed : Int := if negative then -(significand : Int) else significand
          if 0 ≤ exponent then .ok (signed * Int.pow 2 exponent.toNat)
          else
            let unit := Int.pow 2 (-exponent).toNat
            .ok (if up then -((-signed).fdiv unit) else signed.fdiv unit)
  | .undefined _ => .error .nan

/-- The greatest integer that is not above. -/
def floor : Number → Except NotFinite Int := round false

/-- The least integer that is not below. -/
def ceil : Number → Except NotFinite Int := round true

end Number

end Winnow
