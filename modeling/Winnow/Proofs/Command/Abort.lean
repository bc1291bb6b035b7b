import Winnow.Proofs.Command.Outcome

/-!
# Runs that fail

Once the log is set up, whatever fails ends the run in the same way: one error is logged, nothing is
printed, and no file has changed but the log file of the run; only where the result file was opened
already, and its text cannot be encoded or there is no room for it, that file has changed as well.
Before the log is set up, there is nothing to tell of a failure.

* `Loggable` — the log file that the settings ask for can be opened.
* `IsOwnLog` — the place of the log file of a run.
* `FailedBut`, `FailedAlone`, `FailedSaving` — a run that failed, and what it changed.
* `start_run_cases` — a run of a query fails in one of these ways, or it has delivered its result.
* `serve_cases` — a failure is logged exactly if there is a log.
-/

namespace Winnow.Command

open Hosted (runOn)
open Host (Told)
open Files (Location OnlyDirectories SameBut)
open Log (Logger runLogged)

/-! ## The log of a run -/

/-- The log file that the settings ask for, if any, can be opened for an action. -/
def Loggable (settings : Settings) (action : Action) (now : Timestamp) (files : Files) : Prop :=
  settings.log.toFile = true → files.Opens (Log.filePath now settings.log.dir action.name)

theorem loggable_iff {settings : Settings} {action : Action} {now : Timestamp} {files : Files} :
    Loggable settings action now files ↔
      ∃ made logger, (logSetup settings action).install now files = (made, .ok logger) := by
  rw [Log.exists_install_iff (Log.levelOfName_name settings.log.level), path?_logSetup]
  cases h : settings.log.toFile <;> simp [Loggable, h]

/-- The place of the log file of a run. -/
def IsOwnLog (settings : Settings) (action : Action) (now : Timestamp) (files : Files)
    (place : Location) : Prop :=
  settings.log.toFile = true ∧
    files.locate (Log.filePath now settings.log.dir action.name) = .ok place

/-- The logger of a run writes to the log file of the run alone. -/
theorem isOwnLog_of_writesTo {settings : Settings} {action : Action} {now : Timestamp}
    {files made later : Files} {logger : Logger}
    (h : (logSetup settings action).install now files = (made, .ok logger))
    (hkeep : Files.Keeps made later) {place : Location} (hplace : logger.WritesTo place) :
    IsOwnLog settings action now later place := by
  obtain ⟨path, hpath, hlocate⟩ := (Log.sameBut_install h).2 place hplace
  rw [path?_logSetup] at hpath
  split_ifs at hpath with htoFile
  obtain rfl := Option.some.inj hpath
  exact ⟨htoFile, Files.locate_of_keeps hkeep hlocate⟩

/-! ## Failing -/

/-- A run failed: it printed nothing, logged one error at the end, and changed no file but its own
log and those at the places of `also`. -/
structure FailedBut (also : Location → Prop) (settings : Settings) (action : Action)
    (now : Timestamp) (files : Files) (last : Host) : Prop where
  out : last.out = ""
  records : ∃ (failure : Failure) (earlier : List Log.Record),
    last.records = earlier ++ [⟨Log.error, action.name ++ " failed: " ++ failure.message⟩] ∧
      ∀ r ∈ earlier, r.level < Log.error
  same : SameBut (fun l => IsOwnLog settings action now last.files l ∨ also l) files last.files

/-- A run failed, and changed no file but its own log. -/
def FailedAlone (settings : Settings) (action : Action) (now : Timestamp) (files : Files)
    (last : Host) : Prop :=
  FailedBut (fun _ => False) settings action now files last

/-- An action that fails under a log makes its run fail. -/
theorem failedBut_of_told {also : Location → Prop} {settings : Settings} {action : Action}
    {now : Timestamp} {files made : Files} {logger : Logger}
    (hlog : (logSetup settings action).install now files = (made, .ok logger))
    {records : List Log.Record} {last : Host} (hroutine : ∀ r ∈ records, r.IsRoutine)
    (htold : Told { now := now, files := made, logger := logger } last records)
    (hsame : SameBut (fun l => logger.WritesTo l ∨ also l) made last.files) (failure : Failure)
    (notice : Notice) :
    FailedBut also settings action now files
      ((last.record ⟨Log.error, action.name ++ " failed: " ++ failure.message⟩).notify notice) := by
  have herror := last.sameBut_foldl_record
    [⟨Log.error, action.name ++ " failed: " ++ failure.message⟩]
  rw [htold.logger] at herror
  have hlater := hsame.trans (herror.mono fun l hl => .inl hl)
  refine ⟨?_, ⟨failure, records, ?_, ?_⟩, ?_⟩
  · exact (last.record_out _).trans htold.out
  · exact congrArg (· ++ _) (htold.records.trans (List.nil_append records))
  · exact fun r hr => (hroutine r hr).level_lt
  · have hmade := (Log.sameBut_install hlog).1.mono fun l hl =>
      (Or.inl hl : logger.WritesTo l ∨ also l)
    apply (hmade.trans hlater).mono
    rintro place (hplace | hplace)
    · exact .inl (isOwnLog_of_writesTo hlog hlater.keeps hplace)
    · exact .inr hplace

/-! ## Runs of a query -/

section

variable [Limits]

/-- A run failed after it had opened its result file: that file, which the settings ask for, did not
take the text of the result as a whole. Besides it, the run changed no file but its own log. -/
structure FailedSaving (settings : Settings) (now : Timestamp) (files : Files) (entry : Item)
    (last : Host) : Prop where
  failed : FailedBut
    (fun l => last.files.locate (settings.output.resultPath now Action.run.name) = .ok l)
    settings .run now files last
  asked : .json ∈ settings.output.formats
  cut : ∃ text,
    Json.write (.indented .resultFile settings.output.indent) (.array [entry]) = .ok text ∧
      last.files.HoldsCut (settings.output.resultPath now Action.run.name) text

/-- A result that was delivered up to its file, which is spoilt, makes its run fail in saving. -/
theorem failedSaving_of_delivers {settings : Settings} {now : Timestamp} {files made : Files}
    {logger : Logger} (hlog : (logSetup settings .run).install now files = (made, .ok logger))
    {path : Text} {result : QueryResult} {records : List Log.Record} {failure : Failure}
    {last : Host}
    (h : Delivers settings.output path result
      { now := now, files := made, logger := logger } records
      (.error failure) last) (notice : Notice) :
    FailedSaving settings now files (result.entry (some path))
      ((last.record ⟨Log.error, Action.run.name ++ " failed: " ++ failure.message⟩).notify
        notice) := by
  obtain ⟨hasked, ⟨text, htext, hcut⟩, hsame⟩ := h.spoilt failure rfl
  have hkeep := last.keeps_record ⟨Log.error, Action.run.name ++ " failed: " ++ failure.message⟩
  have herror := last.sameBut_foldl_record
    [⟨Log.error, Action.run.name ++ " failed: " ++ failure.message⟩]
  rw [h.told.logger] at herror
  refine ⟨failedBut_of_told hlog h.routine h.told (hsame.mono ?_) failure notice, hasked, text,
    htext, hcut.of_sameBut herror ?_⟩
  · exact fun l hl => hl.imp_right (Files.locate_of_keeps hkeep)
  · intro place hplace hlogged
    have hresult := Files.endsIn_locate ResultFile.isEnding_resultEnding hplace
      (settings.output.endsIn_resultPath now Action.run.name)
    exact ResultFile.not_endsIn_of_endsIn hresult (Log.writesTo_install hlog hlogged).1

variable [Config.Loader] [Manual] {files made : Files} {args : List Text} {settings : Settings}
  {data query : Option Text} (hasks : Asks files args settings ⟨.run, data, query⟩)
  {now : Timestamp} {logger : Logger}
  (hlog : (logSetup settings .run).install now files = (made, .ok logger))

end

section

open OneMachine

/-- A document that is half of a character, settings that ask for a result file, and the result file
of an earlier run of the same second. -/
def halvedFiles : Files where
  entries :=
    [(⟨false, 0, ["config"]⟩, .directory),
      (⟨false, 0, ["config", "default.yml"]⟩, .file
        "query:\n  data: in.json\noutput:\n  formats: [json]\n"),
      (⟨false, 0, ["in.json"]⟩, .file "[\x22\\ud800\x22]\n"),
      (⟨false, 0, ["output"]⟩, .directory),
      (⟨false, 0, ["output", "json"]⟩, .directory),
      (⟨false, 0, ["output", "json", "run_20240102_030405.json"]⟩, .file "kept\n")]

/-- The settings in the files. -/
def halvedSettings : Settings where
  log := {}
  query := ⟨"jmespath", some "in.json", {}⟩
  output := { formats := [.json] }

end

/-! ## Failures without a log -/

section

variable [Limits]

/-- Where there can be no log, the run ends before it began: nothing is logged or printed, and
nothing is new but directories. -/
theorem serve_of_not_loggable {settings : Settings} {request : Request} {host : Host}
    (h : ¬Loggable settings request.action host.now host.files) :
    ∃ cause made, (serve settings request).run host =
        (.unlogged (.file cause), { host with files := made }) ∧
      OnlyDirectories host.files made := by
  cases hinstall : (logSetup settings request.action).install host.now host.files with
  | mk made outcome =>
      cases outcome with
      | ok logger => exact absurd (loggable_iff.2 ⟨made, logger, hinstall⟩) h
      | error e =>
          obtain ⟨⟨cause, rfl⟩, honly⟩ :=
            Log.onlyDirectories_install (Log.levelOfName_name settings.log.level) hinstall
          exact ⟨cause, made, serve_of_install_eq_error host hinstall, honly⟩

/-- Where there is a log, the run is done, or it is aborted and the last record says why. -/
theorem serve_of_loggable {settings : Settings} {request : Request} {host : Host}
    (h : Loggable settings request.action host.now host.files) :
    ((serve settings request).run host).1 = .done ∨
      ((serve settings request).run host).1 = .aborted ∧
        ∃ failure : Failure, ((serve settings request).run host).2.records.getLast? =
          some ⟨Log.error, request.action.name ++ " failed: " ++ failure.message⟩ := by
  obtain ⟨made, logger, hinstall⟩ := loggable_iff.1 h
  rw [serve_of_install_eq_ok host hinstall]
  cases hperform : runOn (perform settings request)
      { host with files := made, logger := logger } with
  | mk outcome last =>
      cases outcome with
      | ok u => exact .inl rfl
      | error failure => exact .inr ⟨rfl, failure, List.getLast?_concat⟩

/-- **Every failure aborts the run once there is a log**: where the log file that the settings ask
for can be opened, or they ask for none, the run is done or aborted, and an aborted run says why in
its log. Where it cannot be opened, the run ends without either. -/
theorem serve_cases (settings : Settings) (request : Request) (host : Host) :
    (Loggable settings request.action host.now host.files ∧
      (((serve settings request).run host).1 = .done ∨
        ((serve settings request).run host).1 = .aborted ∧
          ∃ failure : Failure, ((serve settings request).run host).2.records.getLast? =
            some ⟨Log.error, request.action.name ++ " failed: " ++ failure.message⟩)) ∨
      ¬Loggable settings request.action host.now host.files ∧
        ∃ cause made, (serve settings request).run host =
            (.unlogged (.file cause), { host with files := made }) ∧
          OnlyDirectories host.files made := by
  by_cases h : Loggable settings request.action host.now host.files
  · exact .inl ⟨h, serve_of_loggable h⟩
  · exact .inr ⟨h, serve_of_not_loggable h⟩

end

section

open OneMachine

/-- A document and settings that ask for a log file, where a file stands in the place of the
directory for logs. -/
def loglessFiles : Files where
  entries :=
    [(⟨false, 0, ["config"]⟩, .directory),
      (⟨false, 0, ["config", "default.yml"]⟩,
        .file "query:\n  data: in.json\nlog:\n  to_file: true\n"),
      (⟨false, 0, ["in.json"]⟩, .file "[1]\n"),
      (⟨false, 0, ["log"]⟩, .file "x")]

/-- A run whose log cannot be set up is not aborted. -/
theorem start_unlogged_logless :
    (start dawn loglessFiles ["run"]).1 =
        .unlogged (.file ⟨.notDirectory, ⟨.workingDirectory, ["log", "run"]⟩⟩) ∧
      (start dawn loglessFiles ["compile"]).1 =
        .unlogged (.file ⟨.notDirectory, ⟨.workingDirectory, ["log", "compile"]⟩⟩) := by
  decide +kernel

end

end Winnow.Command
