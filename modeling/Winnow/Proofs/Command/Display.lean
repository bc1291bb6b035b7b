import Winnow.Proofs.Command.Outcome

/-!
# What a run shows

The console shows a result through the log, as plain information. Whether it is seen depends on the
level of the console. Between the lines there may be reports of lines that the log file did not
take.

* `flatMap_shown_infoRecords`, `flatMap_shown_eq_nil` — what a console shows of records of what went
  well.
* `start_run_shows` — what a run shows that ends well.
-/

namespace Winnow.Command

open Log (Record Setup runLogged)
open Files (Location)

/-! ## The console of a level -/

section

variable {level : Level} {file? : Option Location} {now : Timestamp}

/-- A console that lets plain information pass shows its lines. -/
theorem flatMap_shown_infoRecords (h : level.number ≤ Log.info) (lines : List Text) :
    (infoRecords lines).flatMap ((Setup.logger level.number file?).shown now) =
      lines.map fun line => (Record.line now ⟨Log.info, line⟩).escaped := by
  induction lines with
  | nil => rfl
  | cons line lines ih =>
      rw [infoRecords, List.map_cons, List.flatMap_cons, List.map_cons, Log.shown_logger, if_pos h]
      exact congrArg _ ih

/-- A console that does not let plain information pass shows nothing of what goes well. -/
theorem flatMap_shown_eq_nil (h : Log.info < level.number) {records : List Record}
    (hroutine : ∀ r ∈ records, r.IsRoutine) :
    records.flatMap ((Setup.logger level.number file?).shown now) = [] := by
  rw [List.flatMap_eq_nil_iff]
  intro r hr
  have hlow : ¬level.number ≤ r.level := by
    rcases hroutine r hr with hr | hr <;> simp only [hr, Log.debug, Log.info] at h ⊢ <;> omega
  rw [Log.shown_logger, if_neg hlow]

end

/-! ## Runs -/

section

variable [Limits] [Config.Loader] [Manual]

/-- **What a run shows** that ends well, where the settings ask for the console: the lines of the
query, which is one line unless it holds line ends, and of the JSON text of the result, each as
plain information. A console at a level above that shows no lines. Besides lines, there are reports
of those that the log file did not take, if the settings ask for one. -/
theorem start_run_shows {files : Files} {args : List Text} {settings : Settings}
    {data query : Option Text} (hasks : Asks files args settings ⟨.run, data, query⟩)
    (hconsole : .console ∈ settings.output.formats) {now : Timestamp}
    (hexit : (start now files args).1.exitCode = 0) :
    ∃ path d result json,
      dataPath? settings data = some path ∧
        (runLogged (readDocument ((logSetup settings .run).install now files).1
          (Files.Path.ofText path))).2 = .ok d ∧
        answer settings.query.spec query d = .ok result ∧
        Json.write (.indented .console settings.output.indent) result.value = .ok json ∧
        (settings.log.level.number ≤ Log.info → ∃ before after,
          Notice.lines (start now files args).2.err = before ++
            ((shownLines result.query json).map fun line =>
              (Record.line now ⟨Log.info, line⟩).escaped) ++ after) ∧
        (Text.IsLine result.query →
          shownLines result.query json = ("Query: " ++ result.query) :: Text.splitLines json) ∧
        (Log.info < settings.log.level.number → Notice.lines (start now files args).2.err = []) ∧
        ∀ cause, .report cause ∈ (start now files args).2.err → settings.log.toFile = true ∧
          ∃ r ∈ (start now files args).2.records, cause = .full ∨
            ∃ fault, (r.line now).encode = .error fault ∧ cause = .unencodable fault := by
  obtain ⟨made, logger, path, d, result, records, hlog, hpath, hd, hresult, hdone⟩ :=
    exists_delivers_of_exitCode hasks hexit
  obtain ⟨before, json, after, hjson, hrecords⟩ := hdone.shown hconsole
  obtain ⟨file?, rfl⟩ := Log.eq_logger_of_install (Log.levelOfName_name settings.log.level) hlog
  obtain ⟨notices, herr, hlines, hreports⟩ := hdone.told.err
  rw [List.nil_append] at herr
  refine ⟨path, d, result, json, hpath, by rw [hlog, hd], hresult, hjson, ?_,
    fun hline => shownLines_of_isLine hline json, ?_, ?_⟩
  · intro hlevel
    rw [herr, hlines, hrecords, List.flatMap_append, List.flatMap_append,
      flatMap_shown_infoRecords hlevel]
    exact ⟨_, _, rfl⟩
  · intro hlevel
    rw [herr, hlines]
    exact flatMap_shown_eq_nil hlevel hdone.routine
  · intro cause hcause
    rw [herr] at hcause
    obtain ⟨place, hplace, r, hr, hblocks⟩ := hreports cause hcause
    obtain ⟨filePath, hfilePath, -⟩ := (Log.sameBut_install hlog).2 place hplace
    rw [path?_logSetup] at hfilePath
    split_ifs at hfilePath with htoFile
    rw [Host.Blocks, Setup.line_logger] at hblocks
    exact ⟨htoFile, r, by rwa [hdone.told.records], hblocks.symm.imp_left And.left⟩

end

section

open OneMachine

/-- A document, and settings that ask for nothing but a console of a level. -/
def consoleFiles (level : String) : Files where
  entries :=
    [(⟨false, 0, ["config"]⟩, .directory),
      (⟨false, 0, ["config", "default.yml"]⟩, .file
        ("query:\n  data: in.json\nlog:\n  level: " ++ level ++ "\n")),
      (⟨false, 0, ["in.json"]⟩, .file "[\x7b\x22a\x22: [1, 2]\x7d, null]\n")]

/-- The settings in the files. -/
def consoleSettings (level : Level) : Settings where
  log := { level := level }
  query := ⟨"jmespath", some "in.json", {}⟩
  output := {}

theorem start_run_shows_debug :
    Asks (consoleFiles "DEBUG") ["run"] (consoleSettings .debug) ⟨.run, none, none⟩ ∧
      (start dawn (consoleFiles "DEBUG") ["run"]).1.exitCode = 0 ∧
      ∃ (result : QueryResult) (json : Text) (before after : List Text),
        Json.write (.indented .console 2) result.value = .ok json ∧
          Notice.lines (start dawn (consoleFiles "DEBUG") ["run"]).2.err = before ++
            ((shownLines result.query json).map fun line =>
              (Record.line dawn ⟨Log.info, line⟩).escaped) ++ after := by
  have hasks : Asks (consoleFiles "DEBUG") ["run"] (consoleSettings .debug) ⟨.run, none, none⟩ :=
    ⟨Parsed.ofConfig none ["run"], [], {}, by decide +kernel⟩
  have hexit : (start dawn (consoleFiles "DEBUG") ["run"]).1.exitCode = 0 := by
    rw [start_of_asks hasks]
    decide +kernel
  obtain ⟨path, d, result, json, -, -, -, hjson, hshows, -⟩ :=
    start_run_shows hasks (by decide) hexit
  obtain ⟨before, after, herr⟩ := hshows (by decide)
  exact ⟨hasks, hexit, result, json, before, after, hjson, herr⟩

/-- A run that ends well shows nothing at the level of warnings. -/
theorem start_run_silent_warning :
    Asks (consoleFiles "WARNING") ["run"] (consoleSettings .warning) ⟨.run, none, none⟩ ∧
      .console ∈ (consoleSettings .warning).output.formats ∧
      (start dawn (consoleFiles "WARNING") ["run"]).1.exitCode = 0 ∧
      (start dawn (consoleFiles "WARNING") ["run"]).2.err = [] := by
  have hasks : Asks (consoleFiles "WARNING") ["run"] (consoleSettings .warning)
      ⟨.run, none, none⟩ :=
    ⟨Parsed.ofConfig none ["run"], [], {}, by decide +kernel⟩
  refine ⟨hasks, by decide, ?_⟩
  rw [start_of_asks hasks]
  decide +kernel

end

end Winnow.Command
