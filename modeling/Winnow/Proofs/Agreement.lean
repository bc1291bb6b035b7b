import Winnow.Proofs.Files.Alike
import Winnow.Proofs.Output.ResultFile

/-!
# Computations that agree but for the log

Two hosts that differ only in what was logged cannot be told apart by a computation that does not
read its own log. Computations that agree on such hosts may log different things.

* `Host.Alike` — hosts that differ at most in their records, their error streams and what is in
  their log files.
* `Hosted.AgreeOn` — computations that have one outcome, each on its host, and leave hosts that are
  alike.
* `Hosted.Agree` — computations that agree on all hosts that are alike.
* `Hosted.Agree.bind`, `agree_logging` — how such computations are made.
* `agree_save`, `agree_finish` — saving results is one.
-/

namespace Winnow

open Hosted (runOn)
open Files (Location)
open Log (Logged Record runLogged)

/-! ## Hosts -/

namespace Host

/-- Two hosts that differ at most in what was logged. -/
structure Alike (a b : Host) : Prop where
  now : a.now = b.now
  logger : a.logger = b.logger
  out : a.out = b.out
  files : Files.Alike a.logger.WritesTo a.files b.files

/-- A host is like itself if its log files are there. -/
theorem alike_refl {host : Host}
    (h : ∀ place, host.logger.WritesTo place → ∃ text, host.files.get? place = some (.file text)) :
    host.Alike host :=
  ⟨rfl, rfl, rfl, fun _ _ => rfl, h, h, rfl⟩

namespace Alike

variable {a b : Host}

theorem symm (h : a.Alike b) : b.Alike a := by
  refine ⟨h.now.symm, h.logger.symm, h.out.symm, ?_, ?_, ?_, h.files.rooms.symm⟩
  · intro l hl
    rw [← h.logger] at hl
    exact (h.files.same l hl).symm
  · rw [← h.logger]
    exact h.files.right
  · rw [← h.logger]
    exact h.files.left

/-- What is logged on one host leaves it like the other. -/
theorem record_left (h : a.Alike b) (r : Record) : (a.record r).Alike b := by
  refine ⟨?_, ?_, ?_, ?_, ?_, ?_, h.files.rooms.trans (keeps_record a r).rooms.symm⟩
  · rw [record_now, h.now]
  · rw [record_logger, h.logger]
  · rw [record_out, h.out]
  · intro l hl
    rw [record_logger] at hl
    rw [get?_record _ _ hl, h.files.same l hl]
  · intro l hl
    rw [record_logger] at hl
    exact (keeps_record a r).file l (h.files.left l hl)
  · intro l hl
    rw [record_logger] at hl
    exact h.files.right l hl

theorem records_left (h : a.Alike b) (records : List Record) :
    (records.foldl record a).Alike b := by
  induction records generalizing a with
  | nil => exact h
  | cons r records ih => exact ih (h.record_left r)

/-- Different things may be logged on the two hosts. -/
theorem records (h : a.Alike b) (left right : List Record) :
    (left.foldl record a).Alike (right.foldl record b) :=
  ((h.records_left left).symm.records_left right).symm

theorem record (h : a.Alike b) (left right : Record) : (a.record left).Alike (b.record right) :=
  h.records [left] [right]

end Alike

end Host

/-! ## Computations -/

namespace Hosted

variable {ε ε' α β : Type}

/-- Two computations have one outcome, each on its host, and leave hosts that are alike. -/
def AgreeOn (x y : Hosted ε α) (a b : Host) : Prop :=
  (runOn x a).1 = (runOn y b).1 ∧ (runOn x a).2.Alike (runOn y b).2

/-- Two computations that have one outcome on hosts that are alike, and leave them alike. -/
def Agree (x y : Hosted ε α) : Prop :=
  ∀ a b : Host, a.Alike b → AgreeOn x y a b

/-- Computations agree if their first parts do, and the others after what the first ones yield. -/
theorem AgreeOn.bind {x y : Hosted ε α} {f g : α → Hosted ε β} {a b : Host} (h : AgreeOn x y a b)
    (hrest : ∀ v a' b', runOn x a = (.ok v, a') → runOn y b = (.ok v, b') → a'.Alike b' →
      AgreeOn (f v) (g v) a' b') : AgreeOn (x >>= f) (y >>= g) a b := by
  obtain ⟨hvalue, hafter⟩ := h
  cases hx : runOn x a with
  | mk outcome after =>
      cases hy : runOn y b with
      | mk outcome' after' =>
          rw [hx, hy] at hvalue hafter
          obtain rfl : outcome = outcome' := hvalue
          cases outcome with
          | error e =>
              rw [AgreeOn, runOn_bind_of_error hx, runOn_bind_of_error hy]
              exact ⟨rfl, hafter⟩
          | ok v =>
              rw [AgreeOn, runOn_bind_of_ok hx, runOn_bind_of_ok hy]
              exact hrest v after after' hx hy hafter

theorem agree_pure (v : α) : Agree (pure v : Hosted ε α) (pure v) := fun _ _ h => ⟨rfl, h⟩

/-- Computations agree if their parts do, one after the other. -/
theorem Agree.bind {x y : Hosted ε α} {f g : α → Hosted ε β} (hxy : Agree x y)
    (hfg : ∀ v, Agree (f v) (g v)) : Agree (x >>= f) (y >>= g) :=
  fun a b h => (hxy a b h).bind fun v a' b' _ _ h' => hfg v a' b' h'

theorem Agree.adapt {x y : Hosted ε α} (h : Agree x y) (f : ε → ε') :
    Agree (x.adapt f) (y.adapt f) := by
  intro a b hab
  obtain ⟨hvalue, hafter⟩ := h a b hab
  rw [AgreeOn, runOn_adapt, runOn_adapt, hvalue]
  exact ⟨rfl, hafter⟩

/-- Logging does not tell hosts apart. -/
theorem Agree.log_left {x y : Hosted ε α} (h : Agree x y) (level : Int) (message : Text) :
    Agree (Host.log level message >>= fun _ => x) y := by
  intro a b hab
  rw [AgreeOn, runOn_bind_of_ok (runOn_log level message a)]
  exact h _ b (hab.record_left _)

/-- Computations that log agree if they have one outcome, whatever they log. -/
theorem agree_logging {x y : Logged ε α} (h : (runLogged x).2 = (runLogged y).2) :
    Agree (Host.logging x) (Host.logging y) := by
  intro a b hab
  rw [AgreeOn, runOn_logging, runOn_logging, h]
  exact ⟨rfl, hab.records _ _⟩

end Hosted

/-! ## Saving results -/

namespace ResultFile

theorem store_alike {off : Location → Prop} {a b : Files} (h : Files.Alike off a b)
    (file : ResultFile) (now : Timestamp) (action text : Text) :
    Files.Alike off (file.store now action text a).1 (file.store now action text b).1 ∧
      (file.store now action text a).2 = (file.store now action text b).2 := by
  have hmade := h.makeDirectories file.dir
  unfold store
  dsimp only
  cases ha : a.makeDirectories file.dir with
  | mk made outcome =>
      cases hb : b.makeDirectories file.dir with
      | mk made' outcome' =>
          rw [ha, hb] at hmade
          obtain ⟨halike, rfl⟩ := hmade
          cases outcome with
          | error e => exact ⟨halike, rfl⟩
          | ok u =>
              dsimp only
              obtain ⟨hwritten, houtcome⟩ := halike.write (file.path now action) text
              cases hw : made.write (file.path now action) text with
              | mk written result =>
                  cases hw' : made'.write (file.path now action) text with
                  | mk written' result' =>
                      rw [hw, hw'] at hwritten houtcome
                      obtain rfl : result = result' := houtcome
                      cases result <;> exact ⟨hwritten, rfl⟩

/-- Results are saved alike. -/
theorem agree_save [Limits] (file : ResultFile) (action : Text) :
    Hosted.Agree (file.save action) (file.save action) := by
  intro a b h
  rw [Hosted.AgreeOn, runOn_save, runOn_save]
  cases file.text with
  | error e => exact ⟨rfl, h⟩
  | ok text =>
      dsimp only
      have hstore := store_alike h.files file a.now action text
      cases ha : file.store a.now action text a.files with
      | mk made outcome =>
          cases hb : file.store b.now action text b.files with
          | mk made' outcome' =>
              rw [ha, h.now, hb] at hstore
              obtain ⟨halike, rfl⟩ := hstore
              have hhosts : Host.Alike { a with files := made } { b with files := made' } :=
                ⟨h.now, h.logger, h.out, halike⟩
              cases outcome with
              | error e => exact ⟨rfl, hhosts⟩
              | ok path =>
                  exact ⟨rfl, hhosts.record ⟨Log.info, "JSON saved to " ++ path.text⟩
                    ⟨Log.info, "JSON saved to " ++ path.text⟩⟩

end ResultFile

theorem Output.agree_finish [Limits] (output : Output) (action : Text) :
    Hosted.Agree (output.finish action) (output.finish action) := by
  unfold Output.finish
  cases output.file with
  | none => exact Hosted.agree_pure output
  | some file => exact (file.agree_save action).bind fun saved => Hosted.agree_pure _

end Winnow
