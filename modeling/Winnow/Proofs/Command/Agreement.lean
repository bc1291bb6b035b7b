import Winnow.Proofs.Agreement
import Winnow.Proofs.Command.Outcome
import Winnow.Proofs.Spec.Characters

/-!
# Runs with a printed query

The query that is printed for a document can be handed back to the program: a run with the text and
a run without it end alike.

* `agreeOn_runQuery` — the actions agree, whatever they log.
* `exists_read_of_runQuery` — a run that succeeds leaves a result file.
* `SameRun` — runs of the program that end alike.
* `sameRun_serve` — an action with its log, with the text and without it.
* `start_printed_query` — the whole program.
-/

namespace Winnow.Command

open Hosted (runOn Agree AgreeOn)
open Expr.Item (ofDocument)
open Files (EndsIn Location)
open Json (Document)
open Log (logEnding runLogged)

/-! ## Actions -/

section

variable [Limits]

/-- The query of a specification gives what the specification gives. -/
theorem agree_resultOf {v : Item} {spec : Spec} {query : Text}
    (hquery : Language.jmesPath.compile v spec = .ok query) :
    Agree (resultOf ⟨Language.jmesPath⟩ spec (some query) v)
      (resultOf ⟨Language.jmesPath⟩ spec none v) := by
  have houtcome : (runLogged (Service.execute ⟨Language.jmesPath⟩ v query)).2 =
      (runLogged (Service.run ⟨Language.jmesPath⟩ v spec)).2 := by
    rw [outcome_execute, outcome_run hquery]
  exact ((Hosted.agree_logging houtcome).adapt Failure.query).log_left _ _

theorem agree_writeResult (output : Output) (path : Text) (result : QueryResult) :
    Agree (writeResult output path result) (writeResult output path result) :=
  ((Hosted.agree_logging rfl).adapt Failure.output).bind fun output =>
    ((output.agree_finish _).adapt Failure.output).bind fun _ => Hosted.agree_pure ()

theorem agreeOn_document (path : Text) {host : Host}
    (hlog : ∀ place, host.logger.WritesTo place → ∃ text,
      host.files.get? place = some (.file text)) :
    AgreeOn (document path) (document path) host host := by
  rw [AgreeOn, runOn_document]
  exact ⟨rfl, (Host.alike_refl hlog).records _ _⟩

variable {settings : Settings} (hsettings : settings.Accepted) {path : Text} (hpath : path ≠ "")

include hsettings hpath in
/-- **A run with the query of its document** agrees with the run that compiles the query itself. -/
theorem agreeOn_runQuery {output : Output}
    (houtput : Output.ofSettings settings.output = .ok output)
    {d : Document} {query : Text}
    (hquery : Language.jmesPath.compile (ofDocument d) settings.query.spec = .ok query)
    {host : Host}
    (hread : ∀ e, (runLogged (readDocument host.files (Files.Path.ofText path))).2 = .ok e → e = d)
    (hlog : ∀ place, host.logger.WritesTo place → ∃ text,
      host.files.get? place = some (.file text)) :
    AgreeOn (runQuery settings (some path) (some query)) (runQuery settings (some path) none)
      host host := by
  rw [runQuery_eq hsettings (dataPath?_some hpath) houtput,
    runQuery_eq hsettings (dataPath?_some hpath) houtput]
  refine (agreeOn_document path hlog).bind fun item a b hitem _ halike => ?_
  rw [runOn_document] at hitem
  obtain rfl : item = d := hread item (eq_ok_of_mapError_eq_ok (Prod.mk.inj hitem).1)
  exact ((agree_resultOf hquery).bind fun result => agree_writeResult output path result) a b halike

end

/-! ## Result files -/

section

variable [Limits]

/-- Writing a result at the end of a run leaves a result file. -/
theorem exists_read_of_writeResult {output : Output} {file : ResultFile}
    (hfile : output.file = some file) {path : Text} {result : QueryResult} {host last : Host}
    (hlogger : ∀ place, host.logger.WritesTo place → EndsIn logEnding place.names)
    (h : runOn (writeResult output path result) host = (.ok (), last)) :
    last.logger = host.logger ∧
      ∃ text, last.files.read (file.path host.now Action.run.name) = .ok text := by
  obtain ⟨written, logged, hwrite, h⟩ := Hosted.exists_of_runOn_bind h
  obtain ⟨finished, after, hfinish, h⟩ := Hosted.exists_of_runOn_bind h
  obtain rfl : after = last := (Prod.mk.inj h).2
  obtain ⟨hnow, hlog, -⟩ := ((Hosted.onlyLogs_logging _).adapt Failure.output).after_eq hwrite
  rw [Hosted.runOn_adapt, Hosted.runOn_logging] at hwrite
  have hcollected := Output.file_of_write (eq_ok_of_mapError_eq_ok (Prod.mk.inj hwrite).1)
  rw [hfile] at hcollected
  rw [Hosted.runOn_adapt] at hfinish
  obtain ⟨hsaved, hafter⟩ := Prod.mk.inj hfinish
  obtain ⟨hstay, text, -, hread⟩ := Output.exists_read_of_finish hcollected (by rwa [hlog])
    (Prod.ext (eq_ok_of_mapError_eq_ok hsaved) hafter)
  rw [hnow] at hread
  exact ⟨hstay.trans hlog, _, hread⟩

variable {settings : Settings} (hsettings : settings.Accepted) {path : Text} (hpath : path ≠ "")

include hsettings hpath in
/-- A run that succeeds leaves a result file, if the settings ask for one. -/
theorem exists_read_of_runQuery (hjson : .json ∈ settings.output.formats) {query : Option Text}
    {host last : Host}
    (hlogger : ∀ place, host.logger.WritesTo place → EndsIn logEnding place.names)
    (h : runOn (runQuery settings (some path) query) host = (.ok (), last)) :
    last.logger = host.logger ∧
      ∃ text, last.files.read (settings.output.resultPath host.now Action.run.name) = .ok text := by
  obtain ⟨output, file, houtput, hfile, hresult⟩ := Output.exists_ofSettings hjson
  rw [runQuery_eq hsettings (dataPath?_some hpath) houtput] at h
  obtain ⟨item, read, hitem, h⟩ := Hosted.exists_of_runOn_bind h
  obtain ⟨result, evaluated, hvalue, h⟩ := Hosted.exists_of_runOn_bind h
  obtain ⟨hnow, hlog, -⟩ := (onlyLogs_document path).after_eq hitem
  obtain ⟨hnow', hlog', -⟩ := (onlyLogs_resultOf _ _ _ _).after_eq hvalue
  obtain ⟨hstay, text, hread⟩ := exists_read_of_writeResult hfile (by rwa [hlog', hlog]) h
  rw [hresult, hnow', hnow] at hread
  exact ⟨hstay.trans (hlog'.trans hlog), text, hread⟩

end

/-! ## Runs -/

/-- Runs that end alike: with one ending, and with the same files, the log files apart. Runs that
were aborted failed by the same failure, and runs that are done left the same text in their result
file. -/
structure SameRun (settings : OutputSettings) (now : Timestamp) (given own : Ending × Host) :
    Prop where
  ending : given.1 = own.1
  out : given.2.out = own.2.out
  logger : given.2.logger = own.2.logger
  files : ∀ place, ¬given.2.logger.WritesTo place →
    given.2.files.get? place = own.2.files.get? place
  failure : given.1 = .aborted → ∃ failure : Failure,
    given.2.records.getLast? = some ⟨Log.error, "run failed: " ++ failure.message⟩ ∧
      own.2.records.getLast? = some ⟨Log.error, "run failed: " ++ failure.message⟩
  result : given.1 = .done → ∃ text,
    given.2.files.read (settings.resultPath now "run") = .ok text ∧
      own.2.files.read (settings.resultPath now "run") = .ok text

section

variable {settings : OutputSettings} {now : Timestamp} {last last' : Host}

/-- A run that neither began nor was aborted ends like itself. -/
theorem sameRun_refl {ending : Ending} (hdone : ending ≠ .done) (haborted : ending ≠ .aborted) :
    SameRun settings now (ending, last) (ending, last) :=
  ⟨rfl, rfl, rfl, fun _ _ => rfl, fun h => absurd h haborted, fun h => absurd h hdone⟩

theorem sameRun_aborted (halike : last.Alike last') (failure : Failure) :
    SameRun settings now
      (sayAborted (.aborted, last.record ⟨Log.error, "run failed: " ++ failure.message⟩))
      (sayAborted (.aborted, last'.record ⟨Log.error, "run failed: " ++ failure.message⟩)) := by
  have hrecord := halike.record ⟨Log.error, "run failed: " ++ failure.message⟩
    ⟨Log.error, "run failed: " ++ failure.message⟩
  rw [sayAborted_aborted, sayAborted_aborted]
  exact ⟨rfl, hrecord.out, hrecord.logger, hrecord.files.same,
    fun _ => ⟨failure, List.getLast?_concat, List.getLast?_concat⟩, fun h => (nomatch h)⟩

/-- Runs that are done are told apart by log files only, so they left one result file. -/
theorem sameRun_done (halike : last.Alike last')
    (hlogger : ∀ place, last.logger.WritesTo place → EndsIn logEnding place.names) {text : Text}
    (hread : last.files.read (settings.resultPath now "run") = .ok text) :
    SameRun settings now (sayAborted (.done, last)) (sayAborted (.done, last')) := by
  have hsame : last.files.read (settings.resultPath now "run") =
      last'.files.read (settings.resultPath now "run") := by
    refine halike.files.read_eq fun place hplace hlog => ?_
    exact ResultFile.not_endsIn_of_endsIn
      (Files.endsIn_locate ResultFile.isEnding_resultEnding hplace
      (settings.endsIn_resultPath now "run")) (hlogger place hlog)
  rw [sayAborted_done, sayAborted_done]
  exact ⟨rfl, halike.out, halike.logger, halike.files.same, fun h => (nomatch h),
    fun _ => ⟨text, hread, hsame ▸ hread⟩⟩

end

section

variable [Limits]

section

variable {settings : Settings} (hsettings : settings.Accepted) {path : Text} (hpath : path ≠ "")
  (hjson : .json ∈ settings.output.formats)

include hsettings hpath hjson in
/-- A run with the query of its document ends like the run that compiles the query itself. -/
theorem sameRun_serve {d : Document} {query : Text}
    (hquery : Language.jmesPath.compile (ofDocument d) settings.query.spec = .ok query)
    (host : Host)
    (hread : ∀ e, (runLogged (readDocument ((logSetup settings .run).install host.now host.files).1
      (Files.Path.ofText path))).2 = .ok e → e = d) :
    SameRun settings.output host.now
      (sayAborted ((serve settings ⟨.run, some path, some query⟩).run host))
      (sayAborted ((serve settings ⟨.run, some path, none⟩).run host)) := by
  rw [serve_run, serve_run]
  dsimp only [perform]
  cases hsetup : runOn (Host.setUpLog (logSetup settings .run)) host with
  | mk outcome after =>
      cases outcome with
      | error cause =>
          have hne : Ending.unlogged cause ≠ .aborted := fun h => nomatch h
          dsimp only
          rw [sayAborted_of_ne hne]
          exact sameRun_refl (fun h => nomatch h) hne
      | ok u =>
          obtain ⟨hfiles, hnow, -, hlog⟩ := runOn_setUpLog_eq_ok hsetup
          rw [← hfiles] at hread
          obtain ⟨output, file, houtput, -, -⟩ := Output.exists_ofSettings hjson
          obtain ⟨hending, halike⟩ := agreeOn_runQuery hsettings hpath houtput hquery hread
            fun place hplace => (hlog place hplace).2
          dsimp only
          cases hgiven : runOn (runQuery settings (some path) (some query)) after with
          | mk outcome last =>
              cases hown : runOn (runQuery settings (some path) none) after with
              | mk outcome' last' =>
                  rw [hgiven, hown] at hending halike
                  obtain rfl : outcome = outcome' := hending
                  cases outcome with
                  | error failure => exact sameRun_aborted halike failure
                  | ok u =>
                      obtain ⟨hlogger, text, htext⟩ := exists_read_of_runQuery hsettings hpath hjson
                        (fun place hplace => (hlog place hplace).1) hgiven
                      rw [hnow] at htext
                      refine sameRun_done halike (fun place hplace => (hlog place ?_).1) htext
                      rwa [← hlogger]

end

/-- **A printed query can be handed back.** Under settings that ask for a result file, let the query
for a document be printed without failure. Then what is printed is the query on a line of its own,
free of control characters, and from the same files a run with this text ends like a run without it.
-/
theorem start_printed_query [Config.Loader] [Manual] {config : Option Text} {files : Files}
    {settings : Settings} (hsettings : (Parsed.ofConfig config []).settings files = .ok settings)
    (hjson : .json ∈ settings.output.formats) {path : Text} (hpath : path ≠ "")
    {earlier : Timestamp}
    (hexit : (start earlier files
      (Request.arguments ⟨.compile, some path, none⟩ config)).1.exitCode = 0)
    (now : Timestamp) :
    ∃ d query,
      (runLogged (readDocument ((logSetup settings .compile).install earlier files).1
        (Files.Path.ofText path))).2 = .ok d ∧
      Language.jmesPath.compile (ofDocument d) settings.query.spec = .ok query ∧
      (start earlier files (Request.arguments ⟨.compile, some path, none⟩ config)).2.out =
        query ++ "\n" ∧
      NoControl query.toList ∧
      SameRun settings.output now
        (start now files (Request.arguments ⟨.run, some path, some query⟩ config))
        (start now files (Request.arguments ⟨.run, some path, none⟩ config)) := by
  have haccepted : settings.Accepted := Config.accepted_of_loadOver hsettings
  obtain ⟨hconfig, hdata, after, last, hsetup, hperform, hstart⟩ :=
    exists_of_exitCode_eq_zero (.inl rfl) hsettings hexit
  obtain ⟨hfiles, -, hout, -⟩ := runOn_setUpLog_eq_ok hsetup
  obtain ⟨d, query, hread, hquery, hprinted⟩ := exists_of_compileQuery haccepted hpath hperform
  rw [hfiles] at hread
  refine ⟨d, query, hread, hquery, ?_, noControl_query haccepted.spec hquery, ?_⟩
  · rw [hstart]
    dsimp only
    rw [hprinted, hout]
    exact Text.empty_append _
  · -- nothing named a directory before, so the requests are served
    rw [start_arguments (.inr rfl) hsettings, start_arguments (.inr rfl) hsettings, hconfig]
    dsimp only at hdata ⊢
    rw [hdata]
    exact sameRun_serve haccepted hpath hjson hquery { now := now, files := files } fun e he =>
      readDocument_unique (Log.sameTexts_install _ _ _) (Log.sameTexts_install _ _ _) he hread

end

section

open OneMachine

/-- A document, and settings that ask for a filter, for both forms of output and for a log file. -/
def filterFiles : Files where
  entries :=
    [(⟨false, 0, ["config"]⟩, .directory),
      (⟨false, 0, ["config", "default.yml"]⟩, .file
        ("query:\n  spec:\n    filter:\n      path: [a]\n      relation: '<'\n      value: '2'\n" ++
          "output:\n  formats: [console, json]\nlog:\n  to_file: true\n")),
      (⟨false, 0, ["in.json"]⟩, .file "[\x7b\x22a\x22: 1\x7d, null]\n")]

/-- The settings in the files. -/
def filterSettings : Settings where
  log := { toFile := true }
  query := ⟨"jmespath", none, { filter := some ⟨["a"], "<", .text "2"⟩ }⟩
  output := { formats := [.console, .json] }

/-- A second before midnight. -/
def midnight : Timestamp := ⟨2024, 5, 6, 23, 59, 59⟩

theorem start_printed_query_filter :
    (Parsed.ofConfig none []).settings filterFiles = .ok filterSettings ∧
      (start midnight filterFiles
        (Request.arguments ⟨.compile, some "in.json", none⟩ none)).1.exitCode = 0 ∧
      ∃ query,
        (start midnight filterFiles
          (Request.arguments ⟨.compile, some "in.json", none⟩ none)).2.out = query ++ "\n" ∧
        SameRun filterSettings.output midnight
          (start midnight filterFiles
            (Request.arguments ⟨.run, some "in.json", some query⟩ none))
          (start midnight filterFiles (Request.arguments ⟨.run, some "in.json", none⟩ none)) := by
  have hsettings : (Parsed.ofConfig none []).settings filterFiles =
      .ok filterSettings := by
    decide +kernel
  have hexit : (start midnight filterFiles
      (Request.arguments ⟨.compile, some "in.json", none⟩ none)).1.exitCode = 0 := by
    -- the settings are read already
    rw [start_arguments (.inl rfl) hsettings]
    decide +kernel
  obtain ⟨d, query, -, -, hout, -, hsame⟩ :=
    start_printed_query hsettings (by decide) (by decide) hexit midnight
  exact ⟨hsettings, hexit, query, hout, hsame⟩

end

end Winnow.Command
