import Winnow.Text.Basic

/-!
# Log records

* `Record` — a message with its level.
* `Logged ε` — computations that log and may fail; what they logged before failing stays.

Section 5.1 of the DocQuery specification: the package logger `log`.
-/

namespace Winnow.Log

/-- The levels that have names of their own, as numbers. -/
def debug : Int := 10

/-- The level of plain information. -/
def info : Int := 20

/-- The level of warnings. -/
def warning : Int := 30

/-- The level of errors. -/
def error : Int := 40

/-- The level of errors that end the program. -/
def critical : Int := 50

/-- A message with its level. -/
structure Record where
  level : Int
  message : Text
  deriving DecidableEq, Inhabited

/-- Computations that append to a list of records and may fail. -/
abbrev Logged (ε : Type) := ExceptT ε (StateM (List Record))

/-- Logs one message. -/
def write {ε : Type} (level : Int) (message : Text) : Logged ε Unit :=
  modify fun records => records ++ [⟨level, message⟩]

/-- The records of a computation and its outcome. -/
def runLogged {ε α : Type} (x : Logged ε α) : List Record × Except ε α :=
  let (outcome, records) := (x.run).run []
  (records, outcome)

/-! ## Laws -/

variable {ε α β : Type}

/-- The records of one message. -/
@[simp] theorem runLogged_write (level : Int) (message : Text) :
    runLogged (write level message : Logged ε Unit) = ([⟨level, message⟩], .ok ()) := rfl

/-- A value alone logs nothing. -/
@[simp] theorem runLogged_pure (a : α) :
    runLogged (pure a : Logged ε α) = ([], .ok a) := rfl

/-- A failure alone logs nothing. -/
@[simp] theorem runLogged_throw (e : ε) :
    runLogged (throw e : Logged ε α) = ([], .error e) := rfl

end Winnow.Log
