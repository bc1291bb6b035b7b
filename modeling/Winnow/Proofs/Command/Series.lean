import Winnow.Proofs.Command.Outcome
import Winnow.Proofs.Timestamp

/-!
# Series of runs

A run adds to its log file and makes its result file anew, and leaves all other files as they are.
The name of a result file tells the second of its run, so a result stays until a later run of the
same second makes its own result file at the same place. A run that fails may do that too, and leave
it empty.

* `AimsAt`, `SavesTo` — a run that is to save its result to a place, and one that does.
* `sameBut_start` — what one run leaves alone.
* `afterRuns` — the files after a series of runs; `kept_or_aimed_at` — what a series leaves alone.
* `eq_of_aimsAt` — runs that are to save to one place are of one second.
* `result_kept_or_replaced` — what becomes of the result of a run among runs that succeed.
-/

namespace Winnow.Command

open Hosted (runOn)
open Files (EndsIn Holds Keeps Location SameBut)
open Log (logEnding runLogged)

section

variable [Limits]

/-! ## One run -/

/-- Compiling a query prints it, and changes no files but those of the logger. -/
theorem onlyLogged_compileQuery {settings : Settings} (hsettings : settings.Accepted)
    (data : Option Text) (host : Host) :
    host.OnlyLogged (runOn (compileQuery settings data) host).2 := by
  have hhost : host.OnlyLogged host := ⟨rfl, .refl host.files⟩
  rw [compileQuery_eq hsettings]
  obtain ⟨outcome, records, hquery⟩ := onlyLogs_givenQuery settings data host
  have hlogged := hhost.foldl_record records
  cases outcome with
  | error e =>
      rw [Hosted.runOn_bind_of_error hquery]
      exact hlogged
  | ok query =>
      rw [Hosted.runOn_bind_of_ok hquery, Hosted.runOn_adapt, Hosted.runOn_print]
      split
      · exact ⟨hlogged.logger, hlogged.same⟩
      · exact hlogged

variable [Config.Loader] [Manual]

/-- A run of a query is to save its result to a place. -/
def AimsAt (files : Files) (run : Timestamp × List Text) (place : Location) : Prop :=
  ∃ settings data query, Asks files run.2 settings ⟨.run, data, query⟩ ∧
    .json ∈ settings.output.formats ∧
    (start run.1 files run.2).2.files.locate
      (settings.output.resultPath run.1 Action.run.name) = .ok place

/-- A run of a query ends well and saves its result to a place. -/
def SavesTo (files : Files) (run : Timestamp × List Text) (place : Location) : Prop :=
  AimsAt files run place ∧ (start run.1 files run.2).1.exitCode = 0

/-- What an action leaves alone under its log, its run does. -/
theorem sameBut_start_of_action {files made : Files} {args : List Text} {settings : Settings}
    {request : Request} (hasks : Asks files args settings request) {now : Timestamp}
    {logger : Log.Logger}
    (hlog : (logSetup settings request.action).install now files = (made, .ok logger))
    {off : Location → Prop} (hoff : ∀ l, logger.WritesTo l → off l)
    (haction : ∀ outcome last, runOn (perform settings request)
      { now := now, files := made, logger := logger } = (outcome, last) →
        Keeps last.files (start now files args).2.files →
        last.logger = logger ∧ SameBut off made last.files) :
    SameBut off files (start now files args).2.files := by
  have hmade := (Log.sameBut_install hlog).1.mono hoff
  rw [start_of_asks hasks, files_sayAborted,
    serve_of_install_eq_ok { now := now, files := files } hlog] at haction ⊢
  cases hperform : runOn (perform settings request)
      { now := now, files := made, logger := logger } with
  | mk outcome last =>
      rw [hperform] at haction
      cases outcome with
      | ok u =>
          obtain ⟨-, hsame⟩ := haction _ _ rfl (.refl last.files)
          exact hmade.trans hsame
      | error failure =>
          have herror := last.sameBut_foldl_record
            [⟨Log.error, request.action.name ++ " failed: " ++ failure.message⟩]
          obtain ⟨hlogger, hsame⟩ := haction _ _ rfl herror.keeps
          rw [hlogger] at herror
          exact hmade.trans (hsame.trans (herror.mono hoff))

/-- Running a query changes no files but log files and the place that its run is to save the result
to. -/
theorem sameBut_runQuery {files made : Files} {args : List Text} {settings : Settings}
    {data query : Option Text} (hasks : Asks files args settings ⟨.run, data, query⟩)
    {now : Timestamp} {logger : Log.Logger}
    (hlogger : ∀ place, logger.WritesTo place → EndsIn logEnding place.names)
    {outcome : Except Failure Unit} {last : Host}
    (hrun : runOn (runQuery settings data query)
      { now := now, files := made, logger := logger } = (outcome, last))
    (hkeep : Keeps last.files (start now files args).2.files) :
    last.logger = logger ∧
      SameBut (fun l => EndsIn logEnding l.names ∨ AimsAt files (now, args) l) made last.files := by
  rcases runQuery_cases hasks.accepted data query
      { now := now, files := made, logger := logger } hlogger with
    ⟨failure, records, last', hfailed⟩ |
    ⟨path, d, result, records, outcome', last', hended, -, -, -, hdelivers⟩
  · rw [hfailed.run] at hrun
    obtain ⟨-, rfl⟩ := Prod.mk.inj hrun
    exact ⟨hfailed.told.logger, hfailed.same.mono fun l hl => .inl (hlogger l hl)⟩
  · rw [hended] at hrun
    obtain ⟨rfl, rfl⟩ := Prod.mk.inj hrun
    -- whether the result was saved or its file is spoilt, the file is the one that was aimed at
    have haims : .json ∈ settings.output.formats → ∀ l,
        last'.files.locate (settings.output.resultPath now Action.run.name) = .ok l →
          AimsAt files (now, args) l := fun hjson l hl =>
      ⟨settings, data, query, hasks, hjson, Files.locate_of_keeps hkeep hl⟩
    refine ⟨hdelivers.told.logger, ?_⟩
    cases outcome' with
    | ok u =>
        refine (hdelivers.saved rfl).same.mono ?_
        rintro l (hl | ⟨hjson, hlocate⟩)
        · exact .inl (hlogger l hl)
        · exact .inr (haims hjson l hlocate)
    | error failure =>
        have hspoilt := hdelivers.spoilt failure rfl
        refine hspoilt.same.mono ?_
        rintro l (hl | hlocate)
        · exact .inl (hlogger l hl)
        · exact .inr (haims hspoilt.asked l hlocate)

/-- **A run** changes no files but log files and the place that it is to save its result to. -/
theorem sameBut_start (files : Files) (run : Timestamp × List Text) :
    SameBut (fun l => EndsIn logEnding l.names ∨ AimsAt files run l) files
      (start run.1 files run.2).2.files := by
  obtain ⟨now, args⟩ := run
  rcases start_cases now files args with ⟨settings, request, hasks⟩ | ⟨action, hhelp⟩ | ⟨-, hsame⟩
  · cases hlog : (logSetup settings request.action).install now files with
    | mk made outcome =>
        cases outcome with
        | error e =>
            obtain ⟨-, honly⟩ :=
              Log.onlyDirectories_install (Log.levelOfName_name settings.log.level) hlog
            rw [start_of_asks hasks, files_sayAborted,
              serve_of_install_eq_error { now := now, files := files } hlog]
            exact honly.sameBut
        | ok logger =>
            have hlogger : ∀ place, logger.WritesTo place → EndsIn logEnding place.names :=
              fun place hplace => (Log.writesTo_install hlog hplace).1
            obtain ⟨action, data, query⟩ := request
            apply sameBut_start_of_action hasks hlog fun l hl => .inl (hlogger l hl)
            intro outcome last hperform hkeep
            cases action with
            | compile =>
                have hlogged := onlyLogged_compileQuery hasks.accepted data
                  { now := now, files := made, logger := logger }
                rw [show runOn (compileQuery settings data) _ = _ from hperform] at hlogged
                exact ⟨hlogged.logger, hlogged.same.mono fun l hl => .inl (hlogger l hl)⟩
            | run => exact sameBut_runQuery hasks hlogger hperform hkeep
  · dsimp only
    rw [hhelp]
    exact .refl files
  · dsimp only
    rw [hsame]
    exact .refl files

/-! ## Series -/

/-- The files after a series of runs, each at its time and with its arguments. -/
def afterRuns (files : Files) (runs : List (Timestamp × List Text)) : Files :=
  runs.foldl (fun files run => (start run.1 files run.2).2.files) files

@[simp] theorem afterRuns_nil (files : Files) : afterRuns files [] = files := rfl

@[simp] theorem afterRuns_cons (files : Files) (run : Timestamp × List Text)
    (runs : List (Timestamp × List Text)) :
    afterRuns files (run :: runs) = afterRuns (start run.1 files run.2).2.files runs := rfl

theorem afterRuns_append (files : Files) (runs more : List (Timestamp × List Text)) :
    afterRuns files (runs ++ more) = afterRuns (afterRuns files runs) more :=
  List.foldl_append

theorem keeps_afterRuns (files : Files) (runs : List (Timestamp × List Text)) :
    Keeps files (afterRuns files runs) := by
  induction runs generalizing files with
  | nil => exact .refl files
  | cons run runs ih => exact (sameBut_start files run).keeps.trans (ih _)

/-- **A result file stays through a series of runs**, unless one of them is to save its result to
its place. -/
theorem kept_or_aimed_at {place : Location} (hplace : EndsIn ResultFile.resultEnding place.names)
    {text : String} {files : Files} (h : files.get? place = some (.file text))
    (runs : List (Timestamp × List Text)) :
    (afterRuns files runs).get? place = some (.file text) ∨
      ∃ before other after, runs = before ++ other :: after ∧
        AimsAt (afterRuns files before) other place := by
  induction runs generalizing files with
  | nil => exact .inl h
  | cons run runs ih =>
      by_cases haims : AimsAt files run place
      · exact .inr ⟨[], run, runs, rfl, haims⟩
      · have hoff : ¬(EndsIn logEnding place.names ∨ AimsAt files run place) := by
          rintro (hlog | hrun)
          · exact ResultFile.not_endsIn_of_endsIn hplace hlog
          · exact haims hrun
        have hstays := ((sameBut_start files run).get?_file_iff hoff text).2 h
        rcases ih hstays with hkept | ⟨before, other, after, rfl, hother⟩
        · exact .inl hkept
        · exact .inr ⟨run :: before, other, after, rfl, hother⟩

/-- Every run of a series ends well, each on the files that those before it leave. -/
def AllEndWell : Files → List (Timestamp × List Text) → Prop
  | _, [] => True
  | files, run :: runs => (start run.1 files run.2).1.exitCode = 0 ∧
      AllEndWell (start run.1 files run.2).2.files runs

theorem AllEndWell.of_append {files : Files} {before : List (Timestamp × List Text)}
    {other : Timestamp × List Text} {after : List (Timestamp × List Text)}
    (h : AllEndWell files (before ++ other :: after)) :
    (start other.1 (afterRuns files before) other.2).1.exitCode = 0 := by
  induction before generalizing files with
  | nil => exact h.1
  | cons run before ih => exact ih h.2

end

/-! ## Names of result files -/

/-- The name of the result file of a run. -/
def resultName (now : Timestamp) : Text := Action.run.name ++ "_" ++ now.resultMark ++ ".json"

theorem toList_resultName (now : Timestamp) :
    (resultName now).toList = [.char 'r', .char 'u', .char 'n', .char '_'] ++
      now.resultMark.toList ++ Text.toList ".json" := by
  rw [resultName, Text.toList_append, Text.toList_append, Text.toList_append]
  rfl

theorem isEnding_resultName (now : Timestamp) : Files.IsEnding (resultName now).toList where
  noSlash := by
    intro h
    rw [toList_resultName, List.mem_append, List.mem_append] at h
    rcases h with (h | h) | h
    · revert h
      decide
    · exact absurd (now.isMark_resultMark _ h) (by decide)
    · revert h
      decide
  long := by
    rw [toList_resultName, List.length_append, List.length_append]
    simp only [List.length_cons]
    omega

section

variable [Limits] [Config.Loader] [Manual]

theorem endsIn_of_aimsAt {files : Files} {run : Timestamp × List Text} {place : Location}
    (h : AimsAt files run place) : EndsIn (resultName run.1).toList place.names := by
  obtain ⟨settings, data, query, -, -, hlocate⟩ := h
  have hname : (Action.run.name ++ "_" ++ run.1.resultMark ++ ".json").toList =
      [] ++ (resultName run.1).toList := by
    rw [List.nil_append, resultName]
  exact Files.endsIn_locate (isEnding_resultName run.1) hlocate
    (Files.endsIn_child (isEnding_resultName run.1) _ hname)

/-- **Runs that are to save to one place are of one second.** -/
theorem eq_of_aimsAt {files later : Files} {run other : Timestamp × List Text} {place : Location}
    (h : AimsAt files run place) (h' : AimsAt later other place) (hrun : run.1.InRange)
    (hother : other.1.InRange) : run.1 = other.1 := by
  have hlength : (resultName run.1).toList.length = (resultName other.1).toList.length := by
    simp [toList_resultName, Timestamp.length_resultMark hrun, Timestamp.length_resultMark hother]
  have hname := (endsIn_of_aimsAt h).eq_of_length (endsIn_of_aimsAt h') hlength
  rw [toList_resultName, toList_resultName, List.append_left_inj, List.append_right_inj] at hname
  exact Timestamp.eq_of_resultMark_eq hrun hother (Text.toList_injective hname)

/-! ## Results -/

/-- **What becomes of the result of a run** that ends well, if all later runs of a series end well
too: its text is still in its result file after the last run, unless a later run of the same second
saved its own result to the same place. -/
theorem result_kept_or_replaced {files : Files} {earlier later : List (Timestamp × List Text)}
    {now : Timestamp} {args : List Text} {settings : Settings} {data query : Option Text}
    (hasks : Asks (afterRuns files earlier) args settings ⟨.run, data, query⟩)
    (hjson : .json ∈ settings.output.formats)
    (hall : AllEndWell (afterRuns files earlier) ((now, args) :: later))
    (hnow : now.InRange) (hlater : ∀ run ∈ later, run.1.InRange) :
    ∃ path d result text, dataPath? settings data = some path ∧
      (runLogged (readDocument ((logSetup settings .run).install now (afterRuns files earlier)).1
        (Files.Path.ofText path))).2 = .ok d ∧
      answer settings.query.spec query d = .ok result ∧
      Json.write (.indented .resultFile settings.output.indent)
          (.array [result.entry (some path)]) = .ok (Text.ofString text) ∧
      ((afterRuns files (earlier ++ (now, args) :: later)).Holds
          (settings.output.resultPath now Action.run.name) text ∨
        ∃ before other after place, later = before ++ other :: after ∧ other.1 = now ∧
          SavesTo (afterRuns files earlier) (now, args) place ∧
          SavesTo (afterRuns files (earlier ++ (now, args) :: before)) other place) := by
  obtain ⟨hexit, hrest⟩ := hall
  obtain ⟨made, logger, path, d, result, records, hlog, hpath, hd, hresult, hdelivers⟩ :=
    exists_delivers_of_exitCode hasks hexit
  obtain ⟨text, htext, place, hlocate, hfile⟩ := (hdelivers.saved rfl).holds hjson
  have haims : AimsAt (afterRuns files earlier) (now, args) place :=
    ⟨settings, data, query, hasks, hjson, hlocate⟩
  have hplace : EndsIn ResultFile.resultEnding place.names :=
    Files.endsIn_locate ResultFile.isEnding_resultEnding hlocate
      (settings.output.endsIn_resultPath now Action.run.name)
  refine ⟨path, d, result, text, hpath, by rw [hlog, hd], hresult, htext, ?_⟩
  simp only [afterRuns_append, afterRuns_cons]
  rcases kept_or_aimed_at hplace hfile later with hkept | ⟨before, other, after, rfl, hother⟩
  · left
    exact ⟨place, Files.locate_of_keeps (keeps_afterRuns _ later) hlocate, hkept⟩
  · right
    have hinRange : other.1.InRange := hlater other (by simp)
    exact ⟨before, other, after, place, rfl, (eq_of_aimsAt haims hother hnow hinRange).symm,
      ⟨haims, hexit⟩, hother, hrest.of_append⟩

end

/-- A document, and settings that ask for a result file. -/
def seriesFiles : Files where
  entries :=
    [(⟨false, 0, ["config"]⟩, .directory),
      (⟨false, 0, ["config", "default.yml"]⟩, .file
        "query:\n  data: in.json\noutput:\n  formats: [json]\n"),
      (⟨false, 0, ["in.json"]⟩, .file "[1, 2]\n")]

/-- The settings in the files. -/
def seriesSettings : Settings where
  log := {}
  query := ⟨"jmespath", some "in.json", {}⟩
  output := { formats := [.json] }

/-- The arguments of a run for one item of the document. -/
def itemArguments (item : Text) : List Text := ["run", "--query", "[" ++ item ++ "]"]

/-- The files after a run for one item, which is given as it is written. -/
def itemFiles (item value : String) : Files where
  entries := seriesFiles.entries ++
    [(⟨false, 0, ["output"]⟩, .directory), (⟨false, 0, ["output", "json"]⟩, .directory),
      (⟨false, 0, ["output", "json", "run_20240102_030405.json"]⟩, .file
        ("[\n  \x7b\n    \x22data\x22: \x22in.json\x22,\n    \x22query\x22: \x22[" ++ item ++
          "]\x22,\n    \x22result\x22: " ++ value ++ "\n  \x7d\n]"))]

section

open OneMachine

theorem asks_first :
    Asks seriesFiles (itemArguments "0") seriesSettings ⟨.run, none, some "[0]"⟩ :=
  ⟨Parsed.ofConfig none (itemArguments "0"), ["--query", "[0]"],
    { options := [("--query", "[0]")] }, by decide +kernel⟩

theorem asks_second :
    Asks (itemFiles "0" "1") (itemArguments "1") seriesSettings ⟨.run, none, some "[1]"⟩ :=
  ⟨Parsed.ofConfig none (itemArguments "1"), ["--query", "[1]"],
    { options := [("--query", "[1]")] }, by decide +kernel⟩

theorem start_first :
    (start dawn seriesFiles (itemArguments "0")).1.exitCode = 0 ∧
      (start dawn seriesFiles (itemArguments "0")).2.files = itemFiles "0" "1" := by
  rw [start_of_asks asks_first]
  decide +kernel

theorem result_kept_or_replaced_nextSecond :
    let later : List (Timestamp × List Text) := [({ dawn with second := 6 }, itemArguments "1")]
    Asks seriesFiles (itemArguments "0") seriesSettings ⟨.run, none, some "[0]"⟩ ∧
      AllEndWell seriesFiles ((dawn, itemArguments "0") :: later) ∧
      ∃ text, (afterRuns seriesFiles ((dawn, itemArguments "0") :: later)).Holds
        (seriesSettings.output.resultPath dawn Action.run.name) text := by
  intro later
  have hall : AllEndWell seriesFiles ((dawn, itemArguments "0") :: later) := by
    obtain ⟨hexit, hfiles⟩ := start_first
    refine ⟨hexit, ?_, trivial⟩
    dsimp only
    rw [hfiles, start_of_asks asks_second]
    decide +kernel
  have hnow : dawn.InRange := by constructor <;> decide
  have hlater : ∀ run ∈ later, run.1.InRange := by
    rw [List.forall_mem_singleton]
    constructor <;> decide
  obtain ⟨path, d, result, text, -, -, -, -,
    hkept | ⟨before, other, after, place, hother, hsecond, -⟩⟩ :=
    @result_kept_or_replaced _ _ _ seriesFiles [] later dawn (itemArguments "0") seriesSettings none
      (some "[0]") asks_first (by decide) hall hnow hlater
  · exact ⟨asks_first, hall, text, hkept⟩
  · -- the other run is of the next second
    have hmem : other ∈ later := by simp [hother]
    rw [List.mem_singleton] at hmem
    subst hmem
    exact absurd hsecond (by decide)

/-- Whether no file of a tree has a text in it. -/
def lacks (files : Files) (text : String) : Bool :=
  files.entries.all fun entry =>
    match entry.2 with
    | .directory => true
    | .file whole => decide ¬text.toList <:+: whole.toList

theorem not_infix_of_lacks {files : Files} {text whole : String} (h : lacks files text = true)
    {place : Location} (hfile : files.get? place = some (.file whole)) :
    ¬text.toList <:+: whole.toList := by
  have hentry := List.all_eq_true.1 h _ (Files.mem_entries_of_get? hfile)
  simpa using hentry

/-- Two runs of one second end well, and then no file tells of the first query. -/
theorem afterRuns_forgets_first :
    let runs : List (Timestamp × List Text) :=
      [(dawn, itemArguments "0"), (dawn, itemArguments "1")]
    AllEndWell seriesFiles runs ∧
      ∀ place text, (afterRuns seriesFiles runs).get? place = some (.file text) →
        ¬"[0]".toList <:+: text.toList := by
  have hsecond : (start dawn (itemFiles "0" "1") (itemArguments "1")).1.exitCode = 0 ∧
      lacks (start dawn (itemFiles "0" "1") (itemArguments "1")).2.files "[0]" = true := by
    rw [start_of_asks asks_second]
    decide +kernel
  obtain ⟨hexit, hfiles⟩ := start_first
  intro runs
  refine ⟨⟨hexit, ?_, trivial⟩, fun place text hfile => ?_⟩
  · dsimp only
    rw [hfiles]
    exact hsecond.1
  · simp only [runs, afterRuns_cons, afterRuns_nil] at hfile
    rw [hfiles] at hfile
    exact not_infix_of_lacks hsecond.2 hfile

end

end Winnow.Command
