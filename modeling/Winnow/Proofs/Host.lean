import Winnow.Host
import Winnow.Proofs.Files.Tree

/-!
# Computations on the host

* `Hosted.runOn` — what a computation yields and what it leaves, with an equation for each way in
  which computations are made.
* `Logger.WritesTo` — the places of the files that a logger writes to.
* `get?_record`, `keeps_record` — what logging leaves as it is.
* `Hosted.OnlyLogs` — computations that do nothing but log.
* `writesTo_install` — the log file is a file whose name ends in `.log`.
* `sameTexts_install` — setting up a log changes no text.
-/

namespace Winnow

open Log (Logged Logger Record Setup SetupError Sink)
open Files (Location Keeps EndsIn)

/-! ## Running -/

namespace Hosted

variable {ε ε' α β : Type}

/-- What a computation yields, and the host that it leaves. -/
def runOn (x : Hosted ε α) (host : Host) : Except ε α × Host := x.run.run host

@[simp] theorem runOn_pure (a : α) (host : Host) :
    runOn (pure a : Hosted ε α) host = (.ok a, host) := rfl

theorem runOn_bind_of_ok {x : Hosted ε α} {f : α → Hosted ε β} {host after : Host} {a : α}
    (h : runOn x host = (.ok a, after)) : runOn (x >>= f) host = runOn (f a) after := by
  unfold runOn at h ⊢
  rw [ExceptT.run_bind, StateT.run_bind, h]
  rfl

theorem runOn_bind_of_error {x : Hosted ε α} {f : α → Hosted ε β} {host after : Host} {e : ε}
    (h : runOn x host = (.error e, after)) : runOn (x >>= f) host = (.error e, after) := by
  unfold runOn at h ⊢
  rw [ExceptT.run_bind, StateT.run_bind, h]
  rfl

/-- A computation in two parts succeeds if both parts do. -/
theorem exists_of_runOn_bind {x : Hosted ε α} {f : α → Hosted ε β} {host last : Host} {b : β}
    (h : runOn (x >>= f) host = (.ok b, last)) :
    ∃ a after, runOn x host = (.ok a, after) ∧ runOn (f a) after = (.ok b, last) := by
  cases hx : runOn x host with
  | mk outcome after =>
      cases outcome with
      | error e =>
          rw [runOn_bind_of_error hx] at h
          cases h
      | ok a =>
          rw [runOn_bind_of_ok hx] at h
          exact ⟨a, after, rfl, h⟩

@[simp] theorem runOn_get (host : Host) : runOn (get : Hosted ε Host) host = (.ok host, host) := rfl

@[simp] theorem runOn_log (level : Int) (message : Text) (host : Host) :
    runOn (Host.log level message : Hosted ε Unit) host =
      (.ok (), host.record ⟨level, message⟩) := rfl

/-- What is printed is there if it can be encoded; else nothing is. -/
theorem runOn_print (text : Text) (host : Host) :
    runOn (Host.print text) host =
      match text.encode with
      | .ok _ => (.ok (), { host with out := host.out ++ text })
      | .error fault => (.error fault, host) := by
  unfold Host.print
  cases text.encode <;> rfl

/-- Errors under another name. -/
@[simp] theorem runOn_adapt (f : ε → ε') (x : Hosted ε α) (host : Host) :
    runOn (x.adapt f) host = ((runOn x host).1.mapError f, (runOn x host).2) := rfl

/-- A computation that logs leaves its records with the logger and its outcome. -/
@[simp] theorem runOn_logging (x : Logged ε α) (host : Host) :
    runOn (Host.logging x) host =
      ((Log.runLogged x).2, (Log.runLogged x).1.foldl Host.record host) := by
  unfold Host.logging runOn
  cases hx : Log.runLogged x with
  | mk records outcome => cases outcome <;> rfl

theorem runOn_setUpLog (setup : Setup) (host : Host) :
    runOn (Host.setUpLog setup) host =
      match setup.install host.now host.files with
      | (files, .ok logger) => (.ok (), { host with files := files, logger := logger })
      | (files, .error e) => (.error e, { host with files := files }) := by
  unfold Host.setUpLog
  rw [runOn_bind_of_ok (runOn_get host)]
  cases setup.install host.now host.files with
  | mk files outcome => cases outcome <;> rfl

end Hosted

/-! ## Logging and values -/

/-- What is made of a value afterwards does not log. -/
theorem Log.runLogged_bind_pure {ε α β : Type} (x : Logged ε α) (f : α → β) :
    (runLogged (x >>= fun a => pure (f a))).2 = (runLogged x).2.map f := by
  unfold runLogged
  rw [ExceptT.run_bind, StateT.run_bind]
  cases x.run.run [] with
  | mk outcome records => cases outcome <;> rfl

/-! ## The files of a logger -/

namespace Log

/-- Whether a logger writes to the file at a place. -/
def Logger.WritesTo (logger : Logger) (place : Location) : Prop :=
  ∃ handler ∈ logger.handlers, handler.sink = .file place

theorem Logger.writesTo_of_mem_sinks {logger : Logger} {level : Int} {place : Location}
    (h : Sink.file place ∈ logger.sinks level) : logger.WritesTo place := by
  unfold Logger.sinks at h
  split_ifs at h
  · cases h
  · obtain ⟨handler, hhandler, hsink⟩ := List.mem_map.1 h
    have hserved := List.mem_of_mem_filter hhandler
    unfold Logger.served at hserved
    split_ifs at hserved
    · obtain rfl := List.mem_singleton.1 hserved
      cases hsink
    · exact ⟨handler, hserved, hsink⟩

end Log

/-! ## Logging -/

namespace Host

variable (host : Host) (r : Record)

/-- A line goes to the end of a file, as far as it gets in, or to the error stream; nothing else
changes. -/
theorem put_eq (line : Text) (sink : Sink) :
    ∃ files err, host.put line sink = { host with files := files, err := err } ∧
      Keeps host.files files ∧ ∀ k, sink ≠ .file k → files.get? k = host.files.get? k := by
  cases sink with
  | console => exact ⟨host.files, _, rfl, .refl _, fun _ _ => rfl⟩
  | file place =>
      have hkeep := Files.keeps_append host.files place line
      have hget : ∀ k, Sink.file place ≠ .file k →
          (host.files.append place line).1.get? k = host.files.get? k := by
        intro k hk
        refine Files.get?_append_of_ne _ _ ?_
        rintro rfl
        exact hk rfl
      rw [put]
      split
      · next files happend =>
          rw [happend] at hkeep hget
          exact ⟨files, host.err, rfl, hkeep, hget⟩
      · next files cause happend =>
          rw [happend] at hkeep hget
          exact ⟨files, host.err ++ [.report cause], rfl, hkeep, hget⟩

theorem foldl_put_eq (line : Text) (sinks : List Sink) :
    ∃ files err, sinks.foldl (put line) host = { host with files := files, err := err } ∧
      Keeps host.files files ∧
      ∀ k, Sink.file k ∉ sinks → files.get? k = host.files.get? k := by
  induction sinks generalizing host with
  | nil => exact ⟨host.files, host.err, rfl, .refl _, fun _ _ => rfl⟩
  | cons sink sinks ih =>
      obtain ⟨files, err, hput, hkeep, hget⟩ := host.put_eq line sink
      obtain ⟨files', err', hrest, hkeep', hget'⟩ := ih (host.put line sink)
      rw [hput] at hrest hkeep' hget'
      refine ⟨files', err', ?_, hkeep.trans hkeep', fun k hk => ?_⟩
      · rw [List.foldl_cons, hput, hrest]
      · rw [List.mem_cons, not_or] at hk
        rw [hget' k hk.2]
        exact hget k (Ne.symm hk.1)

/-- **What logging leaves**: everything but the error stream and the files of the logger. -/
theorem record_eq :
    ∃ files err, host.record r =
        { host with files := files, err := err, records := host.records ++ [r] } ∧
      Keeps host.files files ∧
      ∀ k, ¬host.logger.WritesTo k → files.get? k = host.files.get? k := by
  obtain ⟨files, err, hfold, hkeep, hget⟩ :=
    foldl_put_eq host (host.logger.line host.now r) (host.logger.sinks r.level)
  refine ⟨files, err, ?_, hkeep, fun k hk => hget k fun hmem => ?_⟩
  · rw [record, hfold]
  · exact hk (Log.Logger.writesTo_of_mem_sinks hmem)

@[simp] theorem record_now : (host.record r).now = host.now := by
  obtain ⟨files, err, h, -⟩ := host.record_eq r
  rw [h]

@[simp] theorem record_logger : (host.record r).logger = host.logger := by
  obtain ⟨files, err, h, -⟩ := host.record_eq r
  rw [h]

@[simp] theorem record_out : (host.record r).out = host.out := by
  obtain ⟨files, err, h, -⟩ := host.record_eq r
  rw [h]

theorem keeps_record : Keeps host.files (host.record r).files := by
  obtain ⟨files, err, h, hkeep, -⟩ := host.record_eq r
  rw [h]
  exact hkeep

/-- Logging leaves every place alone that the logger does not write to. -/
theorem get?_record {k : Location} (hk : ¬host.logger.WritesTo k) :
    (host.record r).files.get? k = host.files.get? k := by
  obtain ⟨files, err, h, -, hget⟩ := host.record_eq r
  rw [h]
  exact hget k hk

/-- Whatever is logged, the time, the logger and what was printed stay. -/
theorem foldl_record_eq (records : List Record) :
    (records.foldl record host).now = host.now ∧ (records.foldl record host).logger = host.logger ∧
      (records.foldl record host).out = host.out := by
  induction records generalizing host with
  | nil => exact ⟨rfl, rfl, rfl⟩
  | cons r records ih =>
      obtain ⟨hnow, hlogger, hout⟩ := ih (host.record r)
      exact ⟨hnow.trans (host.record_now r), hlogger.trans (host.record_logger r),
        hout.trans (host.record_out r)⟩

end Host

namespace Hosted

variable {ε ε' α β : Type}

/-- Computations that change nothing but what was logged. -/
def OnlyLogs (x : Hosted ε α) : Prop :=
  ∀ host, ∃ outcome, ∃ records : List Record,
    runOn x host = (outcome, records.foldl Host.record host)

/-- The time, the logger and what was printed stay. -/
theorem OnlyLogs.after_eq {x : Hosted ε α} (h : OnlyLogs x) {host after : Host}
    {outcome : Except ε α} (hx : runOn x host = (outcome, after)) :
    after.now = host.now ∧ after.logger = host.logger ∧ after.out = host.out := by
  obtain ⟨outcome', records, hrecords⟩ := h host
  rw [hrecords] at hx
  obtain ⟨-, rfl⟩ := Prod.mk.inj hx
  exact host.foldl_record_eq records

theorem onlyLogs_logging (x : Logged ε α) : OnlyLogs (Host.logging x) :=
  fun host => ⟨_, _, runOn_logging x host⟩

theorem onlyLogs_log (level : Int) (message : Text) :
    OnlyLogs (Host.log level message : Hosted ε Unit) :=
  fun host => ⟨_, [_], runOn_log level message host⟩

theorem OnlyLogs.adapt {x : Hosted ε α} (h : OnlyLogs x) (f : ε → ε') : OnlyLogs (x.adapt f) := by
  intro host
  obtain ⟨outcome, records, hx⟩ := h host
  exact ⟨_, records, by rw [runOn_adapt, hx]⟩

theorem OnlyLogs.bind {x : Hosted ε α} {f : α → Hosted ε β} (hx : OnlyLogs x)
    (hf : ∀ v, OnlyLogs (f v)) : OnlyLogs (x >>= f) := by
  intro host
  obtain ⟨outcome, records, hrun⟩ := hx host
  cases outcome with
  | error e => exact ⟨_, records, runOn_bind_of_error hrun⟩
  | ok v =>
      obtain ⟨outcome, more, hmore⟩ := hf v (records.foldl Host.record host)
      exact ⟨outcome, records ++ more, by rw [runOn_bind_of_ok hrun, hmore, List.foldl_append]⟩

end Hosted

/-! ## Setting up the log -/

namespace Log

/-- The ending of the names of log files. -/
def logEnding : List CodePoint := Text.toList ".log"

theorem isEnding_logEnding : Files.IsEnding logEnding where
  noSlash := by decide
  long := by decide

theorem writesTo_logger {level : Int} {file? : Option Location} {place : Location}
    (h : (Setup.logger level file?).WritesTo place) : file? = some place := by
  obtain ⟨handler, hhandler, hsink⟩ := h
  cases file? with
  | none =>
      obtain rfl : handler = ⟨.console, level⟩ := by simpa [Setup.logger] using hhandler
      cases hsink
  | some place' =>
      have hcases : handler = ⟨.console, level⟩ ∨ handler = ⟨.file place', debug⟩ := by
        simpa [Setup.logger] using hhandler
      rcases hcases with rfl | rfl
      · cases hsink
      · obtain rfl := Sink.file.inj hsink
        rfl

theorem endsIn_path? {setup : Setup} {now : Timestamp} {path : Files.Path}
    (h : setup.path? now = some path) : EndsIn logEnding path.names := by
  unfold Setup.path? at h
  split at h
  · cases h
  · next action _ =>
      split_ifs at h
      obtain rfl := Option.some.inj h
      exact Files.endsIn_child isEnding_logEnding _ (Text.toList_append _ _)

/-- **The log file** stands at a place whose last name ends in `.log`, and there it is a file. -/
theorem writesTo_install {setup : Setup} {now : Timestamp} {files made : Files} {logger : Logger}
    (h : setup.install now files = (made, .ok logger)) {place : Location}
    (hplace : logger.WritesTo place) :
    EndsIn logEnding place.names ∧ ∃ text, made.get? place = some (.file text) := by
  unfold Setup.install at h
  split at h
  · cases h
  · cases h
    cases writesTo_logger hplace
  · next level path hlevel hpath =>
      split at h
      · cases h
      · next made' hmade =>
          split at h
          · cases h
          · next place' htarget =>
              obtain ⟨rfl, hlogger⟩ := Prod.mk.inj h
              obtain rfl := Except.ok.inj hlogger
              obtain rfl := Option.some.inj (writesTo_logger hplace)
              obtain ⟨hlocate, hdirectory⟩ := Files.eq_of_target htarget
              exact ⟨Files.endsIn_locate isEnding_logEnding hlocate (endsIn_path? hpath),
                Files.exists_get?_touch hdirectory⟩

/-- Setting up a log changes no text. -/
theorem sameTexts_install (setup : Setup) (now : Timestamp) (files : Files) :
    Files.SameTexts files (setup.install now files).1 := by
  unfold Setup.install
  split
  · exact .refl files
  · exact .refl files
  · next path _ _ =>
      have hmade := Files.sameTexts_makeDirectories files path.parent
      split
      · next heq =>
          rw [heq] at hmade
          exact hmade
      · next heq =>
          rw [heq] at hmade
          split
          · exact hmade
          · exact hmade.trans (Files.sameTexts_touch _ _)

end Log

/-- **A log that is set up** changes no text, and its files are there. -/
theorem runOn_setUpLog_eq_ok {setup : Setup} {host after : Host}
    (h : Hosted.runOn (Host.setUpLog setup) host = (.ok (), after)) :
    after.files = (setup.install host.now host.files).1 ∧ after.now = host.now ∧
      after.out = host.out ∧
      ∀ place, after.logger.WritesTo place →
        EndsIn Log.logEnding place.names ∧ ∃ text, after.files.get? place = some (.file text) := by
  rw [Hosted.runOn_setUpLog] at h
  split at h
  · next files logger hinstall =>
      obtain ⟨-, rfl⟩ := Prod.mk.inj h
      exact ⟨by rw [hinstall], rfl, rfl, fun place hplace => Log.writesTo_install hinstall hplace⟩
  · cases h

end Winnow
