import Winnow.Proofs.Log.Delivery

/-!
# Logs that are set up again and again

However often a log is set up, and however often that fails, a record goes to the console at most
once and to one file at most once: the file of the setup that succeeded last. A line that cannot be
encoded, or for which there is no room, does not get into that file as a whole, and a report says
so.

* `Host.call`, `Host.calls` — what is asked of a log, and what that leaves.
* `Logger.IsPlain` — loggers without handlers, and loggers that were set up; `sinks_cases` — where
  these take a record.
* `Log.Delivery` — what became of one record that was handed to a log file.
* `Host.Takes`, `Host.TakesOnce`, `takesOnce` — one record.
* `Host.Steady`, `Steady.takes` — the records since a setup.
* `Host.SameButDirectories` — hosts that a failed setup leaves alike.
* `delivered_once` — a whole series of calls.
* `half_not_filed_and_file_obstructed` — a record that the console shows and the log file lacks, and
  a log file that cannot be made because of what a setup left that failed.
-/

namespace Winnow

open Hosted (runOn)
open Files (Filed Location Keeps OnlyDirectories SameBut)
open Log (Handler Logger Record Setup SetupError Sink)

/-! ## Calls -/

/-- What is asked of a log. -/
inductive Log.Call where
  /-- Handlers are set up. -/
  | setUp (setup : Setup)
  /-- A record is handed over. -/
  | write (record : Record)

namespace Host

/-- What a call leaves at a time. A setup that fails leaves the logger as it was. -/
def call (host : Host) (now : Timestamp) : Log.Call → Host
  | .setUp setup => (runOn (setUpLog setup) { host with now := now }).2
  | .write r => ({ host with now := now } : Host).record r

/-- What calls leave, one after the other. -/
def calls (host : Host) (calls : List (Timestamp × Log.Call)) : Host :=
  calls.foldl (fun host call => host.call call.1 call.2) host

@[simp] theorem calls_nil (host : Host) : host.calls [] = host := rfl

@[simp] theorem calls_cons (host : Host) (call : Timestamp × Log.Call)
    (rest : List (Timestamp × Log.Call)) :
    host.calls (call :: rest) = (host.call call.1 call.2).calls rest := rfl

theorem calls_append (host : Host) (earlier later : List (Timestamp × Log.Call)) :
    host.calls (earlier ++ later) = (host.calls earlier).calls later := List.foldl_append

/-- The records that calls hand over, each with its time. -/
def written (calls : List (Timestamp × Log.Call)) : List (Timestamp × Record) :=
  calls.filterMap fun call =>
    match call.2 with
    | .setUp _ => none
    | .write r => some (call.1, r)

end Host

/-! ## Loggers -/

namespace Log

theorem levelOfName_cases {name : Text} {level : Int} (h : levelOfName name = .ok level) :
    level = 0 ∨ debug ≤ level := by
  have hnames : ∀ entry ∈ levelNames, entry.2 = 0 ∨ debug ≤ entry.2 := by decide +kernel
  unfold levelOfName at h
  dsimp only at h
  generalize (if name = "" then Text.ofString "INFO" else Text.upper name) = word at h
  split_ifs at h
  rw [← Except.ok.inj h]
  cases hlookup : List.lookup word levelNames with
  | none => exact .inr (by decide)
  | some number =>
      obtain ⟨before, after, hentries, -⟩ := List.lookup_eq_some_iff.1 hlookup
      exact hnames _ (by rw [hentries]; exact List.mem_append_right _ List.mem_cons_self)

/-- A logger without handlers, or one that was set up at a level that has a name. -/
def Logger.IsPlain (logger : Logger) : Prop :=
  logger.handlers = [] ∨ ∃ name level file?,
    levelOfName name = .ok level ∧ logger = Setup.logger level file?

/-- Where no log can be set up, nothing is new but directories. -/
theorem onlyDirectories_install_error {setup : Setup} {now : Timestamp} {files made : Files}
    {e : SetupError} (h : setup.install now files = (made, .error e)) :
    OnlyDirectories files made := by
  cases hlevel : levelOfName setup.level with
  | ok level => exact (onlyDirectories_install hlevel h).2
  | error cause =>
      rw [Setup.install, hlevel] at h
      obtain rfl := (Prod.mk.inj h).1
      exact .refl _

/-- The logger that is set up has the console, at the level that is asked for, and the file that the
path of the setup leads to, if it has one. -/
theorem exists_of_install {setup : Setup} {now : Timestamp} {files made : Files} {logger : Logger}
    (h : setup.install now files = (made, .ok logger)) :
    ∃ level file?, levelOfName setup.level = .ok level ∧ logger = Setup.logger level file? ∧
      ∀ place, file? = some place ↔
        ∃ path, setup.path? now = some path ∧ made.locate path = .ok place := by
  unfold Setup.install at h
  split at h
  · cases h
  · next level hlevel hpath =>
      obtain rfl := Except.ok.inj (Prod.mk.inj h).2
      exact ⟨level, none, hlevel, rfl, by simp [hpath]⟩
  · next level path hlevel hpath =>
      split at h
      · cases h
      · next made' hmade =>
          split at h
          · cases h
          · next place htarget =>
              obtain ⟨rfl, hlogger⟩ := Prod.mk.inj h
              obtain rfl := Except.ok.inj hlogger
              have hlocate := Files.locate_of_keeps (Files.keeps_touch made' place)
                (Files.eq_of_target htarget).1
              exact ⟨level, some place, hlevel, rfl, by simp [hpath, hlocate]⟩

theorem isPlain_of_install {setup : Setup} {now : Timestamp} {files made : Files} {logger : Logger}
    (h : setup.install now files = (made, .ok logger)) : logger.IsPlain := by
  obtain ⟨level, file?, hlevel, hlogger, -⟩ := exists_of_install h
  exact .inr ⟨setup.level, level, file?, hlevel, hlogger⟩

/-- A logger without handlers shows a record on the console or takes it nowhere. -/
theorem sinks_of_handlers_eq_nil {logger : Logger} (h : logger.handlers = []) (level : Int) :
    logger.sinks level = [] ∨ logger.sinks level = [.console] := by
  rw [Logger.sinks, Logger.served, if_pos h]
  by_cases hpass : level < logger.threshold
  · exact .inl (if_pos hpass)
  · rw [if_neg hpass]
    by_cases hlevel : warning ≤ level
    · exact .inr (by simp [hlevel])
    · exact .inl (by simp [hlevel])

/-- A logger that was set up takes what passes it to its file, and shows it on the console from the
level of the console on. Nothing below debug passes, so the file misses nothing of it. -/
theorem sinks_logger {level : Int} (hlevel : level = 0 ∨ debug ≤ level) (file? : Option Location)
    (n : Int) :
    (Setup.logger level file?).sinks n =
      if n < (Setup.logger level file?).threshold then []
      else (if level ≤ n then [.console] else []) ++ file?.toList.map Sink.file := by
  have hthreshold : debug ≤ (Setup.logger level file?).threshold := by
    rcases hlevel with rfl | hlevel
    · exact show debug ≤ warning by decide
    · have hmin : (Setup.logger level file?).level = debug := min_eq_left hlevel
      rw [Logger.threshold, hmin]
      decide
  rw [Logger.sinks, Setup.served_logger]
  by_cases hpass : n < (Setup.logger level file?).threshold
  · rw [if_pos hpass, if_pos hpass]
  · have hdebug : debug ≤ n := by omega
    rw [if_neg hpass, if_neg hpass]
    cases file? <;> by_cases hn : level ≤ n <;> simp [Setup.logger, hn, hdebug]

theorem writesTo_logger_iff {level : Int} {file? : Option Location} {place : Location} :
    (Setup.logger level file?).WritesTo place ↔ file? = some place := by
  refine ⟨writesTo_logger, ?_⟩
  rintro rfl
  exact ⟨⟨.file place, debug⟩, by simp [Setup.logger], rfl⟩

/-- **Where a record goes**: nowhere, or to the console alone if there is no file, or to the file
and perhaps to the console. -/
theorem Logger.IsPlain.sinks_cases {logger : Logger} (h : logger.IsPlain) (level : Int) :
    logger.sinks level = [] ∨
      (logger.sinks level = [.console] ∧ ∀ place, ¬logger.WritesTo place) ∨
      ∃ place, (∀ place', logger.WritesTo place' ↔ place' = place) ∧
        (logger.sinks level = [.file place] ∨ logger.sinks level = [.console, .file place]) := by
  rcases h with hnone | ⟨name, number, file?, hname, rfl⟩
  · rcases sinks_of_handlers_eq_nil hnone level with hsinks | hsinks
    · exact .inl hsinks
    · refine .inr (.inl ⟨hsinks, ?_⟩)
      rintro place ⟨handler, hhandler, -⟩
      rw [hnone] at hhandler
      cases hhandler
  · have hsinks := sinks_logger (levelOfName_cases hname) file? level
    split_ifs at hsinks with hpass hshown
    · exact .inl hsinks
    · cases file? with
      | none => exact .inr (.inl ⟨hsinks, fun place hplace => nomatch writesTo_logger hplace⟩)
      | some place =>
          exact .inr (.inr ⟨place, by simp [writesTo_logger_iff, eq_comm], .inr hsinks⟩)
    · cases file? with
      | none => exact .inl hsinks
      | some place =>
          exact .inr (.inr ⟨place, by simp [writesTo_logger_iff, eq_comm], .inl hsinks⟩)

/-- Where there is a file, lines have their heads. -/
theorem Logger.IsPlain.line_eq {logger : Logger} (h : logger.IsPlain) {place : Location}
    (hplace : logger.WritesTo place) (now : Timestamp) (r : Record) :
    logger.line now r = r.line now := by
  rcases h with hnone | ⟨name, level, file?, -, rfl⟩
  · obtain ⟨handler, hhandler, -⟩ := hplace
    rw [hnone] at hhandler
    cases hhandler
  · exact Setup.line_logger level file? now r

end Log

/-! ## One record -/

/-- What became of a record that was handed to a log file: when that was, whether the console shows
the record, what the file has of its line, and why that is not all of it. -/
structure Log.Delivery where
  now : Timestamp
  record : Record
  shown : Bool
  part : String
  cause? : Option Files.FileErrorKind

namespace Log.Delivery

/-- The record with its time. -/
def entry (d : Delivery) : Timestamp × Record := (d.now, d.record)

def line (d : Delivery) : Text := d.record.line d.now

/-- What the error stream has of it: the line, and a report if that is not in the file as a whole.
-/
def notices (d : Delivery) : List Notice :=
  (if d.shown then [.text d.line.escaped] else []) ++ d.cause?.toList.map .report

end Log.Delivery

namespace Host

/-- The logger of a host is plain, and its log file is there. -/
structure Ready (host : Host) : Prop where
  plain : host.logger.IsPlain
  file : ∀ place, host.logger.WritesTo place → ∃ text, host.files.get? place = some (.file text)

/-- On the way from `host` to `last` some of the `records` are taken by the log file at `place`, in
their order, each once: what gets in of their lines comes after what the file held. Nothing comes to
the error stream but what there is of these records. -/
def Takes (place : Location) (host last : Host) (records : List (Timestamp × Record)) : Prop :=
  ∃ before, ∃ taken : List Log.Delivery,
    host.files.get? place = some (.file before) ∧
      (taken.map Log.Delivery.entry).Sublist records ∧
      (∀ d ∈ taken, Filed host.files place d.line d.part d.cause?) ∧
      last.err = host.err ++ taken.flatMap Log.Delivery.notices ∧
      last.files.get? place = some (.file (before ++ String.join (taken.map Log.Delivery.part)))

/-- A record is shown at most once on the console, and taken at most once by the log file, which
takes what the console shows. It changes no other file. -/
structure TakesOnce (host : Host) (r : Record) : Prop where
  console : (∀ place, ¬host.logger.WritesTo place) → (host.record r).err = host.err ∨
    (host.record r).err = host.err ++ [.text (host.logger.line host.now r).escaped]
  file : ∀ place, host.logger.WritesTo place → Takes place host (host.record r) [(host.now, r)]
  elsewhere : ∀ place, ¬host.logger.WritesTo place →
    (host.record r).files.get? place = host.files.get? place

theorem takes_nil {place : Location} {host last : Host} {before : String}
    (hbefore : host.files.get? place = some (.file before)) (herr : last.err = host.err)
    (hfile : last.files.get? place = some (.file before)) (records : List (Timestamp × Record)) :
    Takes place host last records :=
  ⟨before, [], hbefore, List.nil_sublist _, by simp, by simp [herr], by simp [hfile]⟩

/-- What a line leaves that is put into a log file, after it was shown on the console or not. -/
theorem exists_put_file {host : Host} {place : Location} {before : String}
    (h : host.files.get? place = some (.file before)) (line : Text) :
    ∃ part cause?, Filed host.files place line part cause? ∧
      (host.put line (.file place)).err = host.err ++ cause?.toList.map .report ∧
      (host.put line (.file place)).files.get? place = some (.file (before ++ part)) := by
  obtain ⟨part, cause?, hfiled, hfile, houtcome⟩ := Files.exists_filed h line
  refine ⟨part, cause?, hfiled, ?_⟩
  rw [put]
  cases happend : host.files.append place line with
  | mk files outcome =>
      rw [happend] at hfile houtcome
      cases cause? with
      | none =>
          obtain rfl : outcome = .ok () := houtcome
          exact ⟨(List.append_nil _).symm, hfile⟩
      | some cause =>
          obtain rfl : outcome = .error cause := houtcome
          exact ⟨rfl, hfile⟩

/-- A record that goes to the log file is taken by it. -/
theorem takes_of_sinks (shown : Bool) {host : Host} (hplain : host.logger.IsPlain)
    {place : Location} (hplace : host.logger.WritesTo place) {before : String}
    (h : host.files.get? place = some (.file before)) {r : Record}
    (hsinks : host.logger.sinks r.level =
      (if shown then [Sink.console] else []) ++ [.file place]) :
    Takes place host (host.record r) [(host.now, r)] := by
  have hline : host.logger.line host.now r = r.line host.now := hplain.line_eq hplace host.now r
  let told : Host :=
    if shown then host.notify (.text (r.line host.now).escaped) else host
  have htold : told.files = host.files := by
    unfold told
    split <;> rfl
  have hrecord : host.record r =
      { told.put (r.line host.now) (.file place) with records := host.records ++ [r] } := by
    rw [record, hline, hsinks]
    cases shown <;> rfl
  obtain ⟨part, cause?, hfiled, herr, hfile⟩ := exists_put_file (htold ▸ h) (r.line host.now)
  rw [htold] at hfiled
  refine ⟨before, [⟨host.now, r, shown, part, cause?⟩], h, .refl _,
    fun d hd => List.mem_singleton.1 hd ▸ hfiled, ?_, ?_⟩
  · have hshown : told.err =
        host.err ++ if shown then [.text (r.line host.now).escaped] else [] := by
      unfold told
      cases shown <;> simp [notify]
    rw [hrecord, herr, hshown, List.append_assoc]
    simp [Log.Delivery.notices, Log.Delivery.line]
  · rw [hrecord, hfile]
    simp

/-- **A record is taken once.** -/
theorem Ready.takesOnce {host : Host} (h : host.Ready) (r : Record) : host.TakesOnce r where
  console hnone := by
    rcases h.plain.sinks_cases r.level with hsinks | ⟨hsinks, -⟩ | ⟨place, honly, -⟩
    · simp [record, hsinks]
    · simp [record, hsinks, put, notify]
    · exact absurd ((honly place).2 rfl) (hnone place)
  file place hplace := by
    obtain ⟨text, htext⟩ := h.file place hplace
    rcases h.plain.sinks_cases r.level with hsinks | ⟨-, hnone⟩ | ⟨place', honly, hsinks⟩
    · exact takes_nil htext (by simp [record, hsinks]) (by simpa [record, hsinks] using htext) _
    · exact absurd hplace (hnone place)
    · obtain rfl := (honly place).1 hplace
      rcases hsinks with hsinks | hsinks
      · exact takes_of_sinks false h.plain hplace htext hsinks
      · exact takes_of_sinks true h.plain hplace htext hsinks
  elsewhere place hplace := host.get?_record r hplace

/-! ## Calls that change no handlers -/

/-- A setup succeeds at a time. -/
def SetsUp (host : Host) (now : Timestamp) (setup : Setup) : Prop :=
  (runOn (setUpLog setup) { host with now := now }).1 = .ok ()

/-- None of the calls sets up a log. -/
def Steady (host : Host) : List (Timestamp × Log.Call) → Prop
  | [] => True
  | (now, call) :: rest =>
      (∀ setup, call = .setUp setup → ¬host.SetsUp now setup) ∧ (host.call now call).Steady rest

/-- A setup that succeeds puts its logger in the place of the one before. -/
theorem SetsUp.exists_install {host : Host} {now : Timestamp} {setup : Setup}
    (h : host.SetsUp now setup) :
    ∃ made logger, setup.install now host.files = (made, .ok logger) ∧
      host.call now (.setUp setup) = { host with now := now, files := made, logger := logger } := by
  rw [SetsUp, Hosted.runOn_setUpLog] at h
  cases hinstall : setup.install now host.files with
  | mk made outcome =>
      cases outcome with
      | error e =>
          simp only [hinstall] at h
          cases h
      | ok logger =>
          refine ⟨made, logger, rfl, ?_⟩
          rw [call, Hosted.runOn_setUpLog]
          simp only [hinstall]

/-- A setup that fails makes nothing but directories. -/
theorem exists_call_of_not_setsUp {host : Host} {now : Timestamp} {setup : Setup}
    (h : ¬host.SetsUp now setup) :
    ∃ made, host.call now (.setUp setup) = { host with now := now, files := made } ∧
      OnlyDirectories host.files made := by
  rw [SetsUp, Hosted.runOn_setUpLog] at h
  cases hinstall : setup.install now host.files with
  | mk made outcome =>
      cases outcome with
      | ok logger => simp [hinstall] at h
      | error e =>
          refine ⟨made, ?_, Log.onlyDirectories_install_error hinstall⟩
          rw [call, Hosted.runOn_setUpLog]
          simp only [hinstall]

theorem ready_of_handlers_eq_nil {host : Host} (h : host.logger.handlers = []) : host.Ready where
  plain := .inl h
  file := by
    rintro place ⟨handler, hhandler, -⟩
    rw [h] at hhandler
    cases hhandler

/-- Whatever is asked of a log, its logger stays plain, and its log file stays there. -/
theorem Ready.call {host : Host} (h : host.Ready) (now : Timestamp) (call : Log.Call) :
    (host.call now call).Ready := by
  cases call with
  | setUp setup =>
      by_cases hsets : host.SetsUp now setup
      · obtain ⟨made, logger, hinstall, hcall⟩ := hsets.exists_install
        rw [hcall]
        exact ⟨Log.isPlain_of_install hinstall,
          fun place hplace => (Log.writesTo_install hinstall hplace).2⟩
      · obtain ⟨made, hcall, honly⟩ := exists_call_of_not_setsUp hsets
        rw [hcall]
        exact ⟨h.plain, fun place hplace => honly.keeps.file place (h.file place hplace)⟩
  | write r =>
      have hkeep := ({ host with now := now } : Host).keeps_record r
      constructor
      · rw [Host.call, record_logger]
        exact h.plain
      · intro place hplace
        rw [Host.call, record_logger] at hplace
        exact hkeep.file place (h.file place hplace)

theorem Ready.calls {host : Host} (h : host.Ready) (calls : List (Timestamp × Log.Call)) :
    (host.calls calls).Ready := by
  induction calls generalizing host with
  | nil => exact h
  | cons call rest ih => exact ih (h.call call.1 call.2)

/-- As long as no log is set up, the logger stays. -/
theorem Steady.logger_eq {host : Host} {calls : List (Timestamp × Log.Call)}
    (h : host.Steady calls) :
    (host.calls calls).logger = host.logger := by
  induction calls generalizing host with
  | nil => rfl
  | cons call rest ih =>
      obtain ⟨now, call⟩ := call
      obtain ⟨hcall, hrest⟩ := h
      rw [calls_cons, ih hrest]
      cases call with
      | setUp setup =>
          obtain ⟨made, hfailed, -⟩ := exists_call_of_not_setsUp (hcall setup rfl)
          rw [hfailed]
      | write r => exact record_logger _ r

section

variable {place : Location} {host last : Host}

theorem Takes.append {during : Host} {earlier later : List (Timestamp × Record)}
    (hrooms : during.files.rooms = host.files.rooms) (h : Takes place host during earlier)
    (h' : Takes place during last later) : Takes place host last (earlier ++ later) := by
  obtain ⟨before, taken, hbefore, hsub, hfiled, herr, hfile⟩ := h
  obtain ⟨between, taken', hbetween, hsub', hfiled', herr', hfile'⟩ := h'
  obtain rfl : between = before ++ String.join (taken.map Log.Delivery.part) := by
    simpa using hbetween.symm.trans hfile
  refine ⟨before, taken ++ taken', hbefore, ?_, fun d hd => ?_, ?_, ?_⟩
  · rw [List.map_append]
    exact hsub.append hsub'
  · rcases List.mem_append.1 hd with hd | hd
    · exact hfiled d hd
    · exact (hfiled' d hd).congr hrooms
  · rw [herr', herr, List.flatMap_append, List.append_assoc]
  · rw [hfile', List.map_append, String.join_append, String.append_assoc]

/-- A record is taken by the file, perhaps by the console besides, or by neither. -/
theorem Ready.takes_record (h : host.Ready) (hplace : host.logger.WritesTo place) (now : Timestamp)
    (r : Record) : Takes place host (host.call now (.write r)) [(now, r)] :=
  have hduring : ({ host with now := now } : Host).Ready := ⟨h.plain, h.file⟩
  (hduring.takesOnce r).file place hplace

/-- **The records since a log was set up** with a file: of those that are handed over some are
taken. -/
theorem Steady.takes {calls : List (Timestamp × Log.Call)} (h : host.Steady calls)
    (hready : host.Ready) (hplace : host.logger.WritesTo place) :
    Takes place host (host.calls calls) (written calls) := by
  induction calls generalizing host with
  | nil =>
      obtain ⟨before, hbefore⟩ := hready.file place hplace
      exact takes_nil hbefore rfl hbefore _
  | cons call rest ih =>
      obtain ⟨now, call⟩ := call
      obtain ⟨hcall, hrest⟩ := h
      have hafter := hready.call now call
      cases call with
      | setUp setup =>
          obtain ⟨made, hfailed, honly⟩ := exists_call_of_not_setsUp (hcall setup rfl)
          obtain ⟨before, hbefore⟩ := hready.file place hplace
          have hnothing : Takes place host (host.call now (.setUp setup)) [] := by
            rw [hfailed]
            have hafter := (honly.get?_file_iff not_false before).2 hbefore
            exact ⟨before, [], hbefore, .slnil, by simp, by simp, by simpa using hafter⟩
          have hrooms : (host.call now (.setUp setup)).files.rooms = host.files.rooms := by
            rw [hfailed]
            exact honly.keeps.rooms
          have hplace' : (host.call now (.setUp setup)).logger.WritesTo place := by
            rw [hfailed]
            exact hplace
          exact hnothing.append hrooms (ih hrest hafter hplace')
      | write r =>
          have hplace' : (host.call now (.write r)).logger.WritesTo place := by
            rw [Host.call, record_logger]
            exact hplace
          have hrooms : (host.call now (.write r)).files.rooms = host.files.rooms :=
            (({ host with now := now } : Host).keeps_record r).rooms
          exact (hready.takes_record hplace now r).append hrooms (ih hrest hafter hplace')

end

/-! ## Setups that fail -/

/-- Two hosts are the same but for directories that the second one has besides. -/
structure SameButDirectories (a b : Host) : Prop where
  logger : b.logger = a.logger
  err : b.err = a.err
  files : OnlyDirectories a.files b.files

/-- Lines are put into a sink alike where only directories are new. -/
theorem SameButDirectories.put {a b : Host} (h : SameButDirectories a b) (line : Text) {sink : Sink}
    (hsink : ∀ place, sink = .file place → ∃ text, a.files.get? place = some (.file text)) :
    SameButDirectories (a.put line sink) (b.put line sink) := by
  cases sink with
  | console => exact ⟨h.logger, by simp [Host.put, notify, h.err], h.files⟩
  | file place =>
      obtain ⟨text, htext⟩ := hsink place rfl
      obtain ⟨honly, houtcome⟩ := h.files.append htext line
      rw [Host.put, Host.put]
      cases ha : a.files.append place line with
      | mk files outcome =>
          cases hb : b.files.append place line with
          | mk files' outcome' =>
              rw [ha, hb] at honly houtcome
              obtain rfl : outcome' = outcome := houtcome
              cases outcome' with
              | ok u => exact ⟨h.logger, h.err, honly⟩
              | error cause => exact ⟨h.logger, by simp [notify, h.err], honly⟩

theorem SameButDirectories.foldl_put {a b : Host} (h : SameButDirectories a b) (line : Text)
    (sinks : List Sink)
    (hsinks : ∀ place, .file place ∈ sinks → ∃ text, a.files.get? place = some (.file text)) :
    SameButDirectories (sinks.foldl (Host.put line) a) (sinks.foldl (Host.put line) b) := by
  induction sinks generalizing a b with
  | nil => exact h
  | cons sink sinks ih =>
      obtain ⟨files, err, hput, hkeep, -⟩ := a.put_eq line sink
      refine ih
        (h.put line fun place hplace => hsinks place (by simp [hplace])) fun place hplace => ?_
      rw [hput]
      exact hkeep.file place (hsinks place (List.mem_cons_of_mem _ hplace))

/-- Records are taken alike where only directories are new. -/
theorem SameButDirectories.write {a b : Host} (h : SameButDirectories a b) (ha : a.Ready)
    (now : Timestamp) (r : Record) :
    SameButDirectories (a.call now (.write r)) (b.call now (.write r)) := by
  have hlater : SameButDirectories { a with now := now } { b with now := now } :=
    ⟨h.logger, h.err, h.files⟩
  have hput := hlater.foldl_put (a.logger.line now r) (a.logger.sinks r.level)
    fun place hplace => ha.file place (Log.Logger.writesTo_of_mem_sinks hplace)
  simp only [call, record, h.logger] at hput ⊢
  exact ⟨hput.logger, hput.err, hput.files⟩

theorem SameButDirectories.writes {a b : Host} (h : SameButDirectories a b) (ha : a.Ready)
    (records : List (Timestamp × Record)) :
    SameButDirectories (a.calls (records.map fun entry => (entry.1, .write entry.2)))
      (b.calls (records.map fun entry => (entry.1, .write entry.2))) := by
  induction records generalizing a b with
  | nil => exact h
  | cons entry rest ih => exact ih (h.write ha entry.1 entry.2) (ha.call _ _)

/-! ## Series of calls -/

/-- A setup is in force on the host `last`: it succeeded on `host` at a time, and none of the calls
`later` that lead from there to `last` set up another. The handlers are the console and, if a log
file was asked for, that file. Since then the file has taken some of the records that were handed
over, in their order, and among them are all those that the console shows. -/
structure InForce (host last : Host) (now : Timestamp) (setup : Setup)
    (later : List (Timestamp × Log.Call)) (level : Int) (file? : Option Location) : Prop where
  setsUp : host.SetsUp now setup
  steady : (host.call now (.setUp setup)).Steady later
  named : Log.levelOfName setup.level = .ok level
  place : ∀ place, file? = some place ↔ ∃ path, setup.path? now = some path ∧
    (host.call now (.setUp setup)).files.locate path = .ok place
  handlers : last.logger.handlers =
    ⟨.console, level⟩ :: file?.toList.map fun place => ⟨.file place, Log.debug⟩
  delivered : ∀ place, file? = some place →
    Takes place (host.call now (.setUp setup)) last (written later)

/-- Among any calls none sets up a log, or there is one that does so last. -/
theorem steady_or_setsUp (host : Host) (calls : List (Timestamp × Log.Call)) :
    host.Steady calls ∨ ∃ earlier now setup later, calls = earlier ++ (now, .setUp setup) :: later ∧
      (host.calls earlier).SetsUp now setup ∧
      ((host.calls earlier).call now (.setUp setup)).Steady later := by
  induction calls generalizing host with
  | nil => exact .inl trivial
  | cons call rest ih =>
      obtain ⟨now, call⟩ := call
      rcases ih (host.call now call) with hsteady | ⟨earlier, now', setup, later, rfl, hsets,
        hlater⟩
      · by_cases hcall : ∃ setup, call = .setUp setup ∧ host.SetsUp now setup
        · obtain ⟨setup, rfl, hsets⟩ := hcall
          exact .inr ⟨[], now, setup, rest, rfl, hsets, hsteady⟩
        · exact .inl ⟨fun setup hsetup hsets => hcall ⟨setup, hsetup, hsets⟩, hsteady⟩
      · exact .inr ⟨(now, call) :: earlier, now', setup, later, rfl, hsets, hlater⟩

/-- A setup is in force until another one succeeds. -/
theorem exists_inForce {host : Host} (hready : host.Ready) {now : Timestamp} {setup : Setup}
    (hsets : host.SetsUp now setup) {later : List (Timestamp × Log.Call)}
    (hlater : (host.call now (.setUp setup)).Steady later) :
    ∃ level file?,
      host.InForce ((host.call now (.setUp setup)).calls later) now setup later level file? := by
  obtain ⟨made, logger, hinstall, hcall⟩ := hsets.exists_install
  obtain ⟨level, file?, hlevel, rfl, hplace⟩ := Log.exists_of_install hinstall
  have hafter := hready.call now (.setUp setup)
  refine ⟨level, file?, hsets, hlater, hlevel, ?_, ?_, ?_⟩
  · rw [hcall]
    exact hplace
  · rw [hlater.logger_eq, hcall]
    rfl
  · rintro place rfl
    have hwrites : (host.call now (.setUp setup)).logger.WritesTo place := by
      rw [hcall]
      exact Log.writesTo_logger_iff.2 rfl
    exact hlater.takes hafter hwrites

/-- **Records are delivered once.** Whatever is asked of a log that has no handlers at first, in the
end it has none, because no setup succeeded, or those of the setup that succeeded last. Then each
record goes to the console at most once, at most once to the log file of that setup and nowhere
else. What the console shows goes to the file too; it gets in unless it cannot be encoded, and then
the error stream has a report after it, or as far as there is room, with such a report. A setup that
fails changes neither the handlers nor, until something is set up again, where later records go. -/
theorem delivered_once {host : Host} (h : host.logger.handlers = [])
    (calls : List (Timestamp × Log.Call)) :
    ((host.Steady calls ∧ (host.calls calls).logger.handlers = []) ∨
      ∃ earlier now setup later level file?, calls = earlier ++ (now, .setUp setup) :: later ∧
        (host.calls earlier).InForce (host.calls calls) now setup later level file?) ∧
    (∀ now r, ({ host.calls calls with now := now } : Host).TakesOnce r) ∧
    ∀ now setup, ¬(host.calls calls).SetsUp now setup →
      ((host.calls calls).call now (.setUp setup)).logger = (host.calls calls).logger ∧
      ∀ records : List (Timestamp × Record),
        SameButDirectories
          ((host.calls calls).calls (records.map fun entry => (entry.1, .write entry.2)))
          (((host.calls calls).call now (.setUp setup)).calls
            (records.map fun entry => (entry.1, .write entry.2))) := by
  have hready := ready_of_handlers_eq_nil h
  have hlast := hready.calls calls
  refine ⟨?_, ?_, ?_⟩
  · rcases host.steady_or_setsUp calls with
      hsteady | ⟨earlier, now, setup, later, rfl, hsets, hlater⟩
    · exact .inl ⟨hsteady, by rw [hsteady.logger_eq, h]⟩
    · obtain ⟨level, file?, hinForce⟩ := exists_inForce (hready.calls earlier) hsets hlater
      rw [calls_append, calls_cons]
      exact .inr ⟨earlier, now, setup, later, level, file?, rfl, hinForce⟩
  · intro now r
    have hduring : ({ host.calls calls with now := now } : Host).Ready := ⟨hlast.plain, hlast.file⟩
    exact hduring.takesOnce r
  · intro now setup hfails
    obtain ⟨made, hcall, honly⟩ := exists_call_of_not_setsUp hfails
    have hsame :
        SameButDirectories (host.calls calls) ((host.calls calls).call now (.setUp setup)) := by
      rw [hcall]
      exact ⟨rfl, rfl, honly⟩
    exact ⟨hsame.logger, hsame.writes hlast⟩

/-- A second in the evening. -/
def sunset (second : Nat) : Timestamp := ⟨2024, 5, 6, 21, 8, second⟩

/-- A log with a file; then one that was to have its file where the first file stands, which fails.
-/
def reconfigured : List (Timestamp × Log.Call) :=
  [(sunset 9, .setUp { level := "warn", action := some "run", toFile := true }),
    (sunset 10, .write ⟨Log.info, "loaded"⟩),
    (sunset 10, .setUp
      { level := "notset", action := some "run", toFile := true,
        dir := "log/run/run_0506210809.log" }),
    (sunset 11, .write ⟨Log.error, "failed"⟩)]

theorem delivered_once_reconfigured :
    ({ now := sunset 0 } : Host).logger.handlers = [] ∧
      (({ now := sunset 0 } : Host).calls reconfigured).logger.handlers =
        [⟨.console, Log.warning⟩,
          ⟨.file ⟨false, 0, ["log", "run", "run_0506210809.log"]⟩, Log.debug⟩] ∧
      (({ now := sunset 0 } : Host).calls reconfigured).err =
        [.text "05-06 21:08:11 [ERRO] failed\n"] ∧
      ∃ earlier now setup later level file?,
        reconfigured = earlier ++ (now, .setUp setup) :: later ∧
          (({ now := sunset 0 } : Host).calls earlier).InForce
            (({ now := sunset 0 } : Host).calls reconfigured) now setup later level file? := by
  have hnone : ({ now := sunset 0 } : Host).logger.handlers = [] := rfl
  have hhandlers : (({ now := sunset 0 } : Host).calls reconfigured).logger.handlers =
      [⟨.console, Log.warning⟩,
        ⟨.file ⟨false, 0, ["log", "run", "run_0506210809.log"]⟩, Log.debug⟩] := by
    decide +kernel
  refine ⟨hnone, hhandlers, by decide +kernel, ?_⟩
  rcases (delivered_once hnone reconfigured).1 with ⟨-, hempty⟩ | hinForce
  · rw [hhandlers] at hempty
    cases hempty
  · exact hinForce

/-- A log with a file; then a message that is half a character, which no file can hold. -/
def halved : List (Timestamp × Log.Call) :=
  [(sunset 9, .setUp { level := "info", action := some "run", toFile := true }),
    (sunset 10, .write ⟨Log.info, ⟨[.half 0]⟩⟩)]

/-- A log with a file, and a message. -/
def unobstructed : List (Timestamp × Log.Call) :=
  [(sunset 9, .setUp { level := "info", action := some "run", toFile := true }),
    (sunset 10, .write ⟨Log.info, "loaded"⟩)]

/-- A log whose directory has too long a name, in another directory that has the name of a log file.
-/
def obstacle : Timestamp × Log.Call :=
  (sunset 9, .setUp
    { level := "info", action := some (.ofList (List.replicate 256 (.char 'n'))), toFile := true,
      dir := "log/run/run_0506210809.log" })

/-- A log file can miss what the console shows; and a setup that fails can leave a directory in the
place of the log file of a later one, which fails then and delivers nothing. -/
theorem half_not_filed_and_file_obstructed :
    ((({ now := sunset 0 } : Host).calls halved).logger.handlers =
        [⟨.console, Log.info⟩,
          ⟨.file ⟨false, 0, ["log", "run", "run_0506210809.log"]⟩, Log.debug⟩] ∧
      (({ now := sunset 0 } : Host).calls halved).err =
        [.text "05-06 21:08:10 [INFO] \\ud800\n", .report (.unencodable ⟨22, 0, 0⟩)] ∧
      (({ now := sunset 0 } : Host).calls halved).files.get?
          ⟨false, 0, ["log", "run", "run_0506210809.log"]⟩ = some (.file "")) ∧
    (({ now := sunset 0 } : Host).calls unobstructed).err =
        [.text "05-06 21:08:10 [INFO] loaded\n"] ∧
      (({ now := sunset 0 } : Host).calls [obstacle]).logger.handlers = [] ∧
      (({ now := sunset 0 } : Host).calls (obstacle :: unobstructed)).logger.handlers = [] ∧
      (({ now := sunset 0 } : Host).calls (obstacle :: unobstructed)).err = [] := by
  decide +kernel

end Host

end Winnow
