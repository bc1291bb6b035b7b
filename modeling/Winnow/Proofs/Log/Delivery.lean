import Winnow.Command.Run
import Winnow.Proofs.Files.Directories
import Winnow.Proofs.Host
import Winnow.Proofs.Log.Telling

/-!
# Where records are delivered

What is logged reaches the console as far as the level of the console lets it pass, and of the files
it reaches the log file alone.

* `Notice.lines`, `Logger.shown` — what the console shows, and what a record adds to it.
* `Host.Blocks` — why a line does not get into a log file, which is reported on the error stream.
* `Host.Told` — a host on which some records were logged, and nothing printed.
* `Hosted.Tells` — computations that do nothing but log what goes well; `Tells.bind`,
  `tells_logging` — how they are made.
* `Level.number`, `shown_logger` — which records the console of a level shows.
* `exists_install_iff` — when a log is set up.
* `sameBut_install`, `eq_logger_of_install` — the logger that is set up, and what that leaves alone.
-/

namespace Winnow

open Hosted (runOn)
open Log (Logger Record Setup Sink)
open Files (Location SameBut OnlyDirectories)

/-! ## The console -/

/-- The text that a notice shows, unless it is a report. -/
def Notice.text? : Notice → Option Text
  | text s => some s
  | report _ => none

/-- The lines on an error stream, without the reports between them. -/
def Notice.lines (notices : List Notice) : List Text := notices.filterMap text?

theorem Notice.lines_append (first second : List Notice) :
    lines (first ++ second) = lines first ++ lines second :=
  List.filterMap_append

/-- What a record adds to the console: its line, once for each handler that takes it there. -/
def Log.Logger.shown (logger : Logger) (now : Timestamp) (r : Record) : List Text :=
  ((logger.sinks r.level).filter (· = .console)).map fun _ => (logger.line now r).escaped

namespace Host

/-- Why a line does not get into the file at a place as a whole: it cannot be encoded, or there is
not room for everything. -/
def Blocks (host : Host) (line : Text) (cause : Files.FileErrorKind) (place : Location) : Prop :=
  (∃ fault, line.encode = .error fault ∧ cause = .unencodable fault) ∨
    cause = .full ∧ ∃ room, host.files.rooms.lookup place = some room

/-- A line that is put into a sink is shown if that is the console. A file into which it does not
get is reported. -/
theorem err_put (host : Host) (line : Text) (sink : Sink) :
    ∃ notices, (host.put line sink).err = host.err ++ notices ∧
      Notice.lines notices = ([sink].filter (· = .console)).map (fun _ => line.escaped) ∧
      ∀ cause, .report cause ∈ notices →
        ∃ place, .file place = sink ∧ host.Blocks line cause place := by
  cases sink with
  | console => exact ⟨[.text line.escaped], rfl, rfl, by simp⟩
  | file place =>
      have hnone : [Sink.file place].filter (· = .console) = [] := rfl
      rw [hnone, put]
      cases happend : host.files.append place line with
      | mk files outcome =>
          cases outcome with
          | ok u => exact ⟨[], (List.append_nil _).symm, rfl, by simp⟩
          | error cause =>
              refine ⟨[.report cause], rfl, rfl, fun cause' hcause => ⟨place, rfl, ?_⟩⟩
              obtain rfl := Notice.report.inj (List.mem_singleton.1 hcause)
              exact Files.append_error_cases (congrArg Prod.snd happend)

/-- A line that is put into sinks is shown on the console once for each time that the console is
among them. In between there are reports of files into which the line does not get. -/
theorem err_foldl_put (host : Host) (line : Text) (sinks : List Sink) :
    ∃ notices, (sinks.foldl (put line) host).err = host.err ++ notices ∧
      Notice.lines notices = (sinks.filter (· = .console)).map (fun _ => line.escaped) ∧
      ∀ cause, .report cause ∈ notices →
        ∃ place, .file place ∈ sinks ∧ host.Blocks line cause place := by
  induction sinks generalizing host with
  | nil => exact ⟨[], by simp, rfl, by simp⟩
  | cons sink sinks ih =>
      obtain ⟨files, err, hput, hkeep, -⟩ := host.put_eq line sink
      obtain ⟨first, hfirst, hshown, hblocked⟩ := host.err_put line sink
      obtain ⟨rest, hrest, hlines, hreports⟩ := ih (host.put line sink)
      refine ⟨first ++ rest, ?_, ?_, fun cause hcause => ?_⟩
      · rw [List.foldl_cons, hrest, hfirst, List.append_assoc]
      · rw [Notice.lines_append, hshown, hlines, ← List.map_append, ← List.filter_append]
        rfl
      · rcases List.mem_append.1 hcause with hcause | hcause
        · obtain ⟨place, rfl, hblocks⟩ := hblocked cause hcause
          exact ⟨place, List.mem_cons_self, hblocks⟩
        · obtain ⟨place, hplace, hblocks⟩ := hreports cause hcause
          rw [Blocks, hput, hkeep.rooms] at hblocks
          exact ⟨place, List.mem_cons_of_mem _ hplace, hblocks⟩

/-- A report of a file into which a line does not get is one of a file that the logger writes to. -/
theorem err_record (host : Host) (r : Record) :
    ∃ notices, (host.record r).err = host.err ++ notices ∧
      Notice.lines notices = host.logger.shown host.now r ∧
      ∀ cause, .report cause ∈ notices → ∃ place, host.logger.WritesTo place ∧
        host.Blocks (host.logger.line host.now r) cause place := by
  obtain ⟨notices, herr, hlines, hreports⟩ :=
    host.err_foldl_put (host.logger.line host.now r) (host.logger.sinks r.level)
  refine ⟨notices, herr, hlines, fun cause hcause => ?_⟩
  obtain ⟨place, hplace, hblocks⟩ := hreports cause hcause
  exact ⟨place, Log.Logger.writesTo_of_mem_sinks hplace, hblocks⟩

theorem records_record (host : Host) (r : Record) : (host.record r).records = host.records ++ [r] :=
  rfl

/-- What is on an error stream after records were logged: the lines that the logger lets pass, in
their order, and between them the reports of the log files into which some line did not get. -/
def Shows (host after : Host) (told : List Record) : Prop :=
  ∃ notices, after.err = host.err ++ notices ∧
    Notice.lines notices = told.flatMap (host.logger.shown host.now) ∧
    ∀ cause, .report cause ∈ notices → ∃ place, host.logger.WritesTo place ∧
      ∃ r ∈ told, host.Blocks (host.logger.line host.now r) cause place

/-- Records were logged on a host, and nothing was printed: the console shows what the logger lets
pass. -/
structure Told (host after : Host) (told : List Record) : Prop where
  now : after.now = host.now
  logger : after.logger = host.logger
  out : after.out = host.out
  rooms : after.files.rooms = host.files.rooms
  records : after.records = host.records ++ told
  err : host.Shows after told

namespace Told

variable {a b c : Host} {first second : List Record}

/-- Changes to the files alone. -/
theorem files (host : Host) {files : Files} (h : files.rooms = host.files.rooms) :
    Told host { host with files := files } [] where
  now := rfl
  logger := rfl
  out := rfl
  rooms := h
  records := (List.append_nil _).symm
  err := ⟨[], (List.append_nil _).symm, rfl, by simp⟩

theorem refl (host : Host) : Told host host [] := files host rfl

theorem trans (h : Told a b first) (h' : Told b c second) : Told a c (first ++ second) where
  now := h'.now.trans h.now
  logger := h'.logger.trans h.logger
  out := h'.out.trans h.out
  rooms := h'.rooms.trans h.rooms
  records := by rw [h'.records, h.records, List.append_assoc]
  err := by
    obtain ⟨notices, herr, hlines, hreports⟩ := h.err
    obtain ⟨notices', herr', hlines', hreports'⟩ := h'.err
    simp only [Blocks, h.now, h.logger, h.rooms] at hlines' hreports'
    refine ⟨notices ++ notices', by rw [herr', herr, List.append_assoc], ?_, fun cause hcause => ?_⟩
    · rw [Notice.lines_append, hlines, hlines', List.flatMap_append]
    · rcases List.mem_append.1 hcause with hcause | hcause
      · obtain ⟨place, hplace, r, hr, hblocks⟩ := hreports cause hcause
        exact ⟨place, hplace, r, List.mem_append_left _ hr, hblocks⟩
      · obtain ⟨place, hplace, r, hr, hblocks⟩ := hreports' cause hcause
        exact ⟨place, hplace, r, List.mem_append_right _ hr, hblocks⟩

theorem record (host : Host) (r : Record) : Told host (host.record r) [r] where
  now := host.record_now r
  logger := host.record_logger r
  out := host.record_out r
  rooms := (host.keeps_record r).rooms
  records := host.records_record r
  err := by
    obtain ⟨notices, herr, hlines, hreports⟩ := host.err_record r
    exact ⟨notices, herr, by simpa using hlines, by simpa using hreports⟩

theorem foldl_record (host : Host) (records : List Record) :
    Told host (records.foldl Host.record host) records := by
  induction records generalizing host with
  | nil => exact refl host
  | cons r records ih => exact (Told.record host r).trans (ih (host.record r))

end Told

/-- Logging changes no files but those of the logger. -/
theorem sameBut_foldl_record (host : Host) (records : List Record) :
    SameBut host.logger.WritesTo host.files (records.foldl Host.record host).files := by
  induction records generalizing host with
  | nil => exact .refl _
  | cons r records ih =>
      have hrest := ih (host.record r)
      rw [record_logger] at hrest
      have hfirst : SameBut host.logger.WritesTo host.files (host.record r).files :=
        ⟨host.keeps_record r, fun _ hk => .inl (host.get?_record r hk)⟩
      exact hfirst.trans hrest

/-- The logger of a host stayed, and no files changed but those that it writes to. -/
structure OnlyLogged (host after : Host) : Prop where
  logger : after.logger = host.logger
  same : SameBut host.logger.WritesTo host.files after.files

theorem OnlyLogged.foldl_record {host after : Host} (h : OnlyLogged host after)
    (records : List Record) : OnlyLogged host (records.foldl Host.record after) where
  logger := (Told.foldl_record after records).logger.trans h.logger
  same := by
    have hlater := after.sameBut_foldl_record records
    rw [h.logger] at hlater
    exact h.same.trans hlater

end Host

/-! ## Computations -/

namespace Hosted

variable {ε ε' α β : Type} {host after last : Host} {first second : List Record}

/-- A computation logs records of what goes well, ends with an outcome, and changes no files but
those of the logger. -/
structure Tells (x : Hosted ε α) (host : Host) (records : List Record) (outcome : Except ε α)
    (after : Host) : Prop where
  run : runOn x host = (outcome, after)
  routine : ∀ r ∈ records, r.IsRoutine
  told : Host.Told host after records
  same : SameBut host.logger.WritesTo host.files after.files

theorem tells_throw (e : ε) (host : Host) :
    Tells (throw e : Hosted ε α) host [] (.error e) host where
  run := rfl
  routine := by simp
  told := .refl host
  same := .refl host.files

/-- A computation that logs keeps to that. -/
theorem tells_logging {x : Log.Logged ε α} {records : List Record} {outcome : Except ε α}
    (h : Log.Tells x records outcome) (hroutine : ∀ r ∈ records, r.IsRoutine) (host : Host) :
    Tells (Host.logging x) host records outcome (records.foldl Host.record host) where
  run := by rw [runOn_logging, h.runLogged_eq]
  routine := hroutine
  told := .foldl_record host records
  same := host.sameBut_foldl_record records

theorem tells_log {level : Int} {message : Text} (h : (⟨level, message⟩ : Record).IsRoutine)
    (host : Host) :
    Tells (Host.log level message : Hosted ε Unit) host [⟨level, message⟩] (.ok ())
      (host.record ⟨level, message⟩) where
  run := runOn_log level message host
  routine := by simpa using h
  told := .record host _
  same := host.sameBut_foldl_record [_]

theorem Tells.adapt {x : Hosted ε α} {outcome : Except ε α} (h : Tells x host first outcome after)
    (f : ε → ε') : Tells (x.adapt f) host first (outcome.mapError f) after where
  run := by rw [runOn_adapt, h.run]
  routine := h.routine
  told := h.told
  same := h.same

/-- A computation in two parts logs what the first part does and then what the second does. -/
theorem Tells.bind {x : Hosted ε α} {f : α → Hosted ε β} {a : α} {outcome : Except ε β}
    (hx : Tells x host first (.ok a) after) (hf : Tells (f a) after second outcome last) :
    Tells (x >>= f) host (first ++ second) outcome last where
  run := by rw [runOn_bind_of_ok hx.run, hf.run]
  routine := fun r hr => (List.mem_append.1 hr).elim (hx.routine r) (hf.routine r)
  told := hx.told.trans hf.told
  same := by
    have hlater := hf.same
    rw [hx.told.logger] at hlater
    exact hx.same.trans hlater

/-- Where the first part fails, nothing more is logged. -/
theorem Tells.bind_error {x : Hosted ε α} {f : α → Hosted ε β} {e : ε}
    (hx : Tells x host first (.error e) after) : Tells (x >>= f) host first (.error e) after where
  run := runOn_bind_of_error hx.run
  routine := hx.routine
  told := hx.told
  same := hx.same

end Hosted

/-! ## Levels -/

/-- The number of a level of the settings. -/
def Level.number : Level → Int
  | debug => Log.debug
  | info => Log.info
  | warning => Log.warning
  | error => Log.error
  | critical => Log.critical

namespace Log

theorem levelOfName_name (level : Level) : levelOfName level.name = .ok level.number := by
  cases level <;> decide +kernel

/-- The console of a logger that was set up shows the records from its level on, once each. -/
theorem shown_logger (level : Level) (file? : Option Location) (now : Timestamp) (r : Record) :
    (Setup.logger level.number file?).shown now r =
      if level.number ≤ r.level then [(r.line now).escaped] else [] := by
  have hdebug : debug ≤ level.number := by cases level <;> decide
  have hthreshold : (Setup.logger level.number file?).threshold = debug := by
    rw [Logger.threshold, Setup.logger, min_eq_left hdebug]
    rfl
  rw [Logger.shown, Logger.sinks, hthreshold, Setup.served_logger, Setup.line_logger]
  by_cases h : r.level < debug
  · have hlow : ¬level.number ≤ r.level := by omega
    simp [h, hlow]
  · have hpass : debug ≤ r.level := by omega
    rw [if_neg h]
    by_cases hlevel : level.number ≤ r.level <;> cases file? <;>
      simp [Setup.logger, hlevel, hpass]

/-! ## Setting up -/

/-- A logger that was set up has the console, at its level, and at most one file. -/
theorem eq_logger_of_install {setup : Setup} {level : Int}
    (hlevel : levelOfName setup.level = .ok level)
    {now : Timestamp} {files made : Files} {logger : Logger}
    (h : setup.install now files = (made, .ok logger)) :
    ∃ file?, logger = Setup.logger level file? := by
  unfold Setup.install at h
  rw [hlevel] at h
  split at h
  · cases h
  · next heq _ =>
      obtain rfl := Except.ok.inj heq
      exact ⟨none, (Except.ok.inj (Prod.mk.inj h).2).symm⟩
  · next heq _ =>
      obtain rfl := Except.ok.inj heq
      split at h
      · cases h
      · split at h
        · cases h
        · exact ⟨some _, (Except.ok.inj (Prod.mk.inj h).2).symm⟩

/-- **When a log is set up**: exactly if its file, where there is to be one, can be opened. -/
theorem exists_install_iff {setup : Setup} {level : Int}
    (hlevel : levelOfName setup.level = .ok level)
    (now : Timestamp) (files : Files) :
    (∃ made logger, setup.install now files = (made, .ok logger)) ↔
      ∀ path, setup.path? now = some path → files.Opens path := by
  unfold Setup.install
  rw [hlevel]
  cases setup.path? now with
  | none => simp
  | some path =>
      simp only [Option.some.injEq, forall_eq', Files.opens_iff]
      constructor
      · rintro ⟨made, logger, h⟩
        split at h
        · cases h
        · next made' hmade =>
            split at h
            · cases h
            · next place htarget => exact ⟨made', place, hmade, htarget⟩
      · rintro ⟨made, place, hmade, htarget⟩
        exact ⟨made.touch place, Setup.logger level (some place), by simp [hmade, htarget]⟩

/-- **Setting up a log** makes directories, opens the log file at its path, and changes no other
file. -/
theorem sameBut_install {setup : Setup} {now : Timestamp} {files made : Files} {logger : Logger}
    (h : setup.install now files = (made, .ok logger)) :
    SameBut logger.WritesTo files made ∧
      ∀ place, logger.WritesTo place →
        ∃ path, setup.path? now = some path ∧ made.locate path = .ok place := by
  unfold Setup.install at h
  split at h
  · cases h
  · obtain ⟨rfl, hlogger⟩ := Prod.mk.inj h
    obtain rfl := Except.ok.inj hlogger
    refine ⟨.refl _, fun place hplace => ?_⟩
    cases writesTo_logger hplace
  · next path _ hpath =>
      have honly := Files.onlyDirectories_makeDirectories files path.parent
      split at h
      · cases h
      · next made' hmade =>
          rw [hmade] at honly
          split at h
          · cases h
          · next place htarget =>
              obtain ⟨rfl, hlogger⟩ := Prod.mk.inj h
              obtain rfl := Except.ok.inj hlogger
              have htouch := Files.sameBut_touch made' place
              refine ⟨?_, fun place' hplace' => ⟨path, hpath, ?_⟩⟩
              · apply honly.sameBut.trans
                apply htouch.mono
                rintro l rfl
                exact ⟨⟨.file l, debug⟩, by simp [Setup.logger], rfl⟩
              · obtain rfl := Option.some.inj (writesTo_logger hplace')
                exact Files.locate_of_keeps htouch.keeps (Files.eq_of_target htarget).1

/-- Where no log can be set up at a level, a file is the cause, and nothing is new but directories.
-/
theorem onlyDirectories_install {setup : Setup} {level : Int}
    (hlevel : levelOfName setup.level = .ok level) {now : Timestamp} {files made : Files}
    {e : SetupError} (h : setup.install now files = (made, .error e)) :
    (∃ cause, e = .file cause) ∧ OnlyDirectories files made := by
  unfold Setup.install at h
  rw [hlevel] at h
  split at h
  · next heq => cases heq
  · cases h
  · next path _ _ =>
      have honly := Files.onlyDirectories_makeDirectories files path.parent
      split at h
      · next cause hmade =>
          obtain ⟨rfl, he⟩ := Prod.mk.inj h
          rw [hmade] at honly
          exact ⟨⟨cause, (Except.error.inj he).symm⟩, honly⟩
      · next hmade =>
          rw [hmade] at honly
          split at h
          · next cause _ =>
              obtain ⟨rfl, he⟩ := Prod.mk.inj h
              exact ⟨⟨cause, (Except.error.inj he).symm⟩, honly⟩
          · cases h

end Log

end Winnow
