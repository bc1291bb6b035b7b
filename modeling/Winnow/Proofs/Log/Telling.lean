import Mathlib
import Winnow.Log.Record

/-!
# What a computation tells the log

A computation that logs adds its records to those that were logged before, without regard to them.
What it adds is put together from what its parts add.

* `Tells` — the records that a computation adds, with its outcome.
* `Tells.bind`, `Tells.bind_error` — computations in two parts.
* `tells_forIn` — one record for each of some lines.
* `Record.IsRoutine` — records of what goes well.
-/

namespace Winnow.Log

variable {ε α β : Type}

/-- A computation adds `records` to whatever was logged before, and ends with `outcome`. -/
def Tells (x : Logged ε α) (records : List Record) (outcome : Except ε α) : Prop :=
  ∀ before, x.run.run before = (outcome, before ++ records)

theorem Tells.runLogged_eq {x : Logged ε α} {records : List Record} {outcome : Except ε α}
    (h : Tells x records outcome) : runLogged x = (records, outcome) := by
  simp [runLogged, h []]

theorem tells_pure (a : α) : Tells (pure a : Logged ε α) [] (.ok a) := by
  intro before
  rw [List.append_nil]
  rfl

theorem tells_throw (e : ε) : Tells (throw e : Logged ε α) [] (.error e) := by
  intro before
  rw [List.append_nil]
  rfl

theorem tells_write (level : Int) (message : Text) :
    Tells (write level message : Logged ε Unit) [⟨level, message⟩] (.ok ()) := fun _ => rfl

/-- A computation in two parts tells what the first part tells and then what the second does. -/
theorem Tells.bind {x : Logged ε α} {f : α → Logged ε β} {first second : List Record} {a : α}
    {outcome : Except ε β} (hx : Tells x first (.ok a)) (hf : Tells (f a) second outcome) :
    Tells (x >>= f) (first ++ second) outcome := by
  intro before
  rw [ExceptT.run_bind, StateT.run_bind, hx before, ← List.append_assoc]
  exact hf (before ++ first)

/-- Where the first part fails, nothing more is told. -/
theorem Tells.bind_error {x : Logged ε α} {f : α → Logged ε β} {records : List Record} {e : ε}
    (hx : Tells x records (.error e)) : Tells (x >>= f) records (.error e) := by
  intro before
  rw [ExceptT.run_bind, StateT.run_bind, hx before]
  rfl

/-- Lines that are logged one by one are told in order. -/
theorem tells_forIn (level : Int) (lines : List Text) :
    Tells (forIn lines PUnit.unit fun line _ => do
        write level line
        pure (ForInStep.yield PUnit.unit) : Logged ε PUnit)
      (lines.map fun line => ⟨level, line⟩) (.ok PUnit.unit) := by
  induction lines with
  | nil => exact tells_pure _
  | cons line lines ih =>
      have hline : Tells (do write level line; pure (ForInStep.yield PUnit.unit) :
          Logged ε (ForInStep PUnit)) [⟨level, line⟩] (.ok (.yield PUnit.unit)) :=
        (tells_write level line).bind (tells_pure _)
      rw [List.forIn_cons, List.map_cons]
      exact hline.bind ih

/-- A record of what goes well: one of plain information, or one that helps to find faults. -/
def Record.IsRoutine (r : Record) : Prop := r.level = debug ∨ r.level = info

theorem Record.IsRoutine.level_lt {r : Record} (h : r.IsRoutine) : r.level < error := by
  rcases h with h | h <;> simp [h, debug, info, error]

end Winnow.Log
