import Winnow.Expr.Error
import Winnow.Limits

/-!
# The room of an evaluation

Computations stand inside one another, and there is room for so many of them. Every computation is
told how many places are left, takes some, and leaves the rest to those inside it.

* `levelPlaces`, `checkPlaces`, `truthPlaces`, `notPlaces`, `comparePlaces` — what the parts of an
  evaluation take.
* `inside` — a computation inside another; `inside_of_le` says when it is made.
-/

namespace Winnow.Expr

variable {α : Type}

/-- The places that a level of an expression takes. -/
def levelPlaces : Nat := 2

/-- The places that it takes to check the arguments of a function. -/
def checkPlaces : Nat := 5

/-- The places that it takes to tell whether an item is chosen. -/
def truthPlaces : Nat := 3

/-- The places that it takes to negate a value. -/
def notPlaces : Nat := 5

/-- The places that it takes to compare two values. -/
def comparePlaces : Comparison → Nat
  | .eq => 7
  | .ne => 8
  | _ => 6

/-- What is computed `places` further in than where `room` places are left, given the places that
are left there. -/
def inside (places room : Nat) (compute : Nat → Except EvalError α) : Except EvalError α :=
  if places ≤ room then compute (room - places) else .error .noRoom

/-- Where there is room, the places are taken. -/
theorem inside_of_le {places room : Nat} (h : places ≤ room)
    (compute : Nat → Except EvalError α) : inside places room compute = compute (room - places) :=
  if_pos h

/-- What is computed a level further in. -/
def deeper (room : Nat) (compute : Nat → Except EvalError α) : Except EvalError α :=
  inside levelPlaces room compute

/-- What is computed at the start of an expression: on the level of the expression if both are of
one chain, else below it. -/
def atStart (joined : Bool) (room : Nat) (compute : Nat → Except EvalError α) :
    Except EvalError α :=
  if joined then compute room else deeper room compute

end Winnow.Expr
