import Winnow.Text.Decimal

/-!
# Timestamps

A local date and time in whole seconds, and the three ways in which it is written: at the head of a
log line, in the name of a log file, and in the name of a result file.
-/

namespace Winnow

/-- A date and a time of day. -/
structure Timestamp where
  year : Nat
  month : Nat
  day : Nat
  hour : Nat
  minute : Nat
  second : Nat
  deriving DecidableEq, Inhabited

namespace Timestamp

open Text (padded)

/-- Month, day and time at the head of a log line. -/
def lineHead (t : Timestamp) : Text :=
  padded 2 t.month ++ "-" ++ padded 2 t.day ++ " " ++ padded 2 t.hour ++ ":" ++
    padded 2 t.minute ++ ":" ++ padded 2 t.second

/-- The time of day, without marks. -/
def clock (t : Timestamp) : Text :=
  padded 2 t.hour ++ padded 2 t.minute ++ padded 2 t.second

/-- Month, day and time in the name of a log file. -/
def logMark (t : Timestamp) : Text :=
  padded 2 t.month ++ padded 2 t.day ++ t.clock

/-- Date and time in the name of a result file. -/
def resultMark (t : Timestamp) : Text :=
  padded 4 t.year ++ padded 2 t.month ++ padded 2 t.day ++ "_" ++ t.clock

end Timestamp

end Winnow
