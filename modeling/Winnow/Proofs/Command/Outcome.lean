import Winnow.Config.Load
import Winnow.Proofs.Command.Run
import Winnow.Proofs.Output.Writers

/-!
# How the actions end

A run of a query fails before its result is delivered, having logged nothing but what went well
until then and changed no file but the log file; or its result is found and shown, and then it is
saved as the settings ask for, unless the writing of its file breaks off.

* `answer` — what a query text, or else a specification, gives for a document.
* `Delivers` — a result that was shown, and saved as far as that went.
* `writeResult_cases`, `resultOf_cases`, `runQuery_cases` — how writing a result, finding it and
  running a query end.
* `start_run_eq` — a run of a query under its log; `exists_delivers_of_exitCode` — one that ends
  well.
-/

namespace Winnow.Command

open Hosted (runOn Tells)
open Host (Told)
open Expr.Item (ofDocument)
open Files (EndsIn Holds OnlyDirectories SameBut)
open Json (Document)
open Log (Logger Record logEnding runLogged)

section

variable [Limits]

/-! ## Results -/

/-- What a query text, or else a specification, gives for a document. -/
def answer (spec : Spec) (query : Option Text) (d : Document) : Except QueryError QueryResult :=
  match query with
  | some text => (runLogged (Service.execute ⟨Language.jmesPath⟩ (ofDocument d) text)).2
  | none => (runLogged (Service.run ⟨Language.jmesPath⟩ (ofDocument d) spec)).2

theorem exists_tells_document (path : Text) (host : Host) :
    ∃ records after, Tells (document path) host records
      ((runLogged (readDocument host.files (Files.Path.ofText path))).2.mapError Failure.document)
      after := by
  obtain ⟨records, htells, hroutine⟩ :=
    exists_tells_readDocument host.files (Files.Path.ofText path)
  rw [htells.runLogged_eq]
  refine ⟨records, records.foldl Host.record host, ?_⟩
  have hlogging := (Hosted.tells_logging htells hroutine host).adapt Failure.document
  exact ⟨by rw [runOn_document, htells.runLogged_eq], hroutine, hlogging.told, hlogging.same⟩

theorem exists_tells_resultOf (spec : Spec) (query : Option Text) (d : Document) (host : Host) :
    ∃ records after, Tells (resultOf ⟨Language.jmesPath⟩ spec query (ofDocument d)) host records
      ((answer spec query d).mapError Failure.query) after := by
  cases query with
  | none =>
      obtain ⟨records, htells, hroutine⟩ := exists_tells_run Language.jmesPath (ofDocument d) spec
      rw [answer, htells.runLogged_eq]
      exact ⟨records, _, (Hosted.tells_logging htells hroutine host).adapt Failure.query⟩
  | some text =>
      obtain ⟨records, htells, hroutine⟩ :=
        exists_tells_execute Language.jmesPath (ofDocument d) text
      rw [answer, htells.runLogged_eq]
      have hgiven : Record.IsRoutine ⟨Log.info, "Using query text from command line"⟩ := .inr rfl
      exact ⟨_, _, (Hosted.tells_log hgiven host).bind
        ((Hosted.tells_logging htells hroutine _).adapt Failure.query)⟩

/-! ## Delivery -/

/-- A result was shown on the console as the settings ask for it, and records of what went well were
logged. If all went well, the result was saved as well; else its file is spoilt. -/
structure Delivers (settings : OutputSettings) (path : Text) (result : QueryResult) (host : Host)
    (records : List Record) (outcome : Except Failure Unit) (last : Host) : Prop where
  routine : ∀ r ∈ records, r.IsRoutine
  told : Told host last records
  shown : .console ∈ settings.formats → ∃ before json after,
    Json.write (.indented .console settings.indent) result.value = .ok json ∧
      records = before ++ infoRecords (shownLines result.query json) ++ after
  saved : outcome = .ok () → settings.Saved Action.run.name (result.entry (some path)) host last
  spoilt : ∀ failure, outcome = .error failure →
    settings.Spoilt Action.run.name (result.entry (some path)) host last

/-- What was logged before a result was delivered does not count. -/
theorem Delivers.of_tells {ε α : Type} {x : Hosted ε α} {outcome : Except ε α}
    {settings : OutputSettings} {path : Text} {result : QueryResult} {host after last : Host}
    {first second : List Record} {ending : Except Failure Unit}
    (hx : Tells x host first outcome after)
    (h : Delivers settings path result after second ending last) :
    Delivers settings path result host (first ++ second) ending last where
  routine := fun r hr => (List.mem_append.1 hr).elim (hx.routine r) (h.routine r)
  told := hx.told.trans h.told
  shown := by
    intro hconsole
    obtain ⟨before, json, after, hjson, hrecords⟩ := h.shown hconsole
    exact ⟨first ++ before, json, after, hjson, by simp [hrecords]⟩
  saved := fun hending => (h.saved hending).of_tells hx
  spoilt := fun failure hending => (h.spoilt failure hending).of_tells hx

/-- **Writing a result** fails quietly, or the result is delivered. -/
theorem writeResult_cases {settings : OutputSettings} {output : Output}
    (houtput : Output.ofSettings settings = .ok output) (path : Text) (result : QueryResult)
    {host : Host} (hlogger : ∀ place, host.logger.WritesTo place → EndsIn logEnding place.names) :
    (∃ failure records last,
        Tells (writeResult output path result) host records (.error failure) last) ∨
      ∃ records outcome last, runOn (writeResult output path result) host = (outcome, last) ∧
        Delivers settings path result host records outcome last := by
  obtain rfl := Output.eq_writers_of_ofSettings houtput
  obtain ⟨first, hroutine, ⟨e, hwrite⟩ | ⟨hwrite, hshown⟩⟩ :=
    settings.writers.exists_tells_write result (some path)
  · left
    exact ⟨_, first, _,
      ((Hosted.tells_logging hwrite hroutine host).adapt Failure.output).bind_error⟩
  · have hlogging := (Hosted.tells_logging hwrite hroutine host).adapt Failure.output
    rw [← hlogging.told.logger] at hlogger
    have hconsole : .console ∈ settings.formats → ∀ second, ∃ before json after,
        Json.write (.indented .console settings.indent) result.value = .ok json ∧
          first ++ second = before ++ infoRecords (shownLines result.query json) ++ after := by
      intro hformat second
      have hfirst : settings.writers.console = some ⟨settings.indent⟩ := if_pos hformat
      obtain ⟨before, json, hjson, rfl⟩ := hshown _ hfirst
      exact ⟨before, json, second, hjson, rfl⟩
    rcases settings.finish_cases Action.run.name result (some path) hlogger with
      ⟨e, last, hfinish, htold, honly | hspoilt⟩ | ⟨finished, second, last, hfinish, hroutine',
        htold, hsaved⟩
    · left
      have hquiet : Tells
          (ExceptT.adapt Failure.output
            ((settings.writers.collect result (some path)).finish Action.run.name))
          (first.foldl Host.record host) [] (.error (.output e)) last :=
        ⟨by rw [Hosted.runOn_adapt, hfinish]; rfl, by simp, htold, honly.sameBut⟩
      exact ⟨_, first ++ [], last, hlogging.bind hquiet.bind_error⟩
    · right
      refine ⟨first ++ [], .error (.output e), last, ?_, ?_⟩
      · rw [writeResult, Hosted.runOn_bind_of_ok hlogging.run,
          Hosted.runOn_bind_of_error (by rw [Hosted.runOn_adapt, hfinish]; rfl)]
      · exact ⟨by simpa using hroutine, hlogging.told.trans htold, (hconsole · []), by simp,
          fun _ _ => hspoilt.of_tells hlogging⟩
    · right
      refine ⟨first ++ second, .ok (), last, ?_, ?_⟩
      · rw [writeResult, Hosted.runOn_bind_of_ok hlogging.run,
          Hosted.runOn_bind_of_ok (by rw [Hosted.runOn_adapt, hfinish]; rfl)]
        rfl
      · exact ⟨fun r hr => (List.mem_append.1 hr).elim (hroutine r) (hroutine' r),
          hlogging.told.trans htold, (hconsole · second), fun _ => hsaved.of_tells hlogging,
          by simp⟩

/-! ## Running a query -/

/-- With a document at hand the result is found and delivered, or that fails quietly. -/
theorem resultOf_cases {settings : Settings} {output : Output}
    (houtput : Output.ofSettings settings.output = .ok output) (path : Text) (query : Option Text)
    (d : Document) {host : Host}
    (hlogger : ∀ place, host.logger.WritesTo place → EndsIn logEnding place.names) :
    (∃ failure records last,
        Tells (do
          let result ← resultOf ⟨Language.jmesPath⟩ settings.query.spec query (ofDocument d)
          writeResult output path result) host records (.error failure) last) ∨
      ∃ result records outcome last,
        runOn (do
          let result ← resultOf ⟨Language.jmesPath⟩ settings.query.spec query (ofDocument d)
          writeResult output path result) host = (outcome, last) ∧
        answer settings.query.spec query d = .ok result ∧
        Delivers settings.output path result host records outcome last := by
  obtain ⟨found, after, hfind⟩ := exists_tells_resultOf settings.query.spec query d host
  cases hresult : answer settings.query.spec query d with
  | error cause =>
      rw [hresult] at hfind
      exact .inl ⟨_, _, after, hfind.bind_error⟩
  | ok result =>
      rw [hresult] at hfind
      rw [← hfind.told.logger] at hlogger
      rcases writeResult_cases houtput path result hlogger with
        ⟨failure, written, last, hwrite⟩ | ⟨written, outcome, last, hwrite, hdelivers⟩
      · exact .inl ⟨failure, _, last, hfind.bind hwrite⟩
      · refine .inr ⟨result, _, outcome, last, ?_, rfl, hdelivers.of_tells hfind⟩
        rw [Hosted.runOn_bind_of_ok hfind.run, hwrite]

/-- **A run of a query** fails, having logged nothing but what went well until then and changed no
file but those of the logger; or it has loaded the document, found the result and delivered it,
which may have failed in saving alone. -/
theorem runQuery_cases {settings : Settings} (hsettings : settings.Accepted)
    (data query : Option Text) (host : Host)
    (hlogger : ∀ place, host.logger.WritesTo place → EndsIn logEnding place.names) :
    (∃ failure records last,
        Tells (runQuery settings data query) host records (.error failure) last) ∨
      ∃ path d result records outcome last,
        runOn (runQuery settings data query) host = (outcome, last) ∧
        dataPath? settings data = some path ∧
        (runLogged (readDocument host.files (Files.Path.ofText path))).2 = .ok d ∧
        answer settings.query.spec query d = .ok result ∧
        Delivers settings.output path result host records outcome last := by
  cases hpath : dataPath? settings data with
  | none =>
      left
      refine ⟨.noData, [], host, ?_⟩
      rw [runQuery, hpath]
      exact Hosted.tells_throw _ host
  | some path =>
      cases houtput : Output.ofSettings settings.output with
      | error cause =>
          left
          refine ⟨.output cause, [], host, ?_⟩
          rw [runQuery, hpath, houtput]
          exact Hosted.tells_throw _ host
      | ok output =>
          rw [runQuery_eq hsettings hpath houtput]
          obtain ⟨loaded, after, hload⟩ := exists_tells_document path host
          cases hd : (runLogged (readDocument host.files (Files.Path.ofText path))).2 with
          | error cause =>
              rw [hd] at hload
              exact .inl ⟨_, loaded, after, hload.bind_error⟩
          | ok d =>
              rw [hd] at hload
              rw [← hload.told.logger] at hlogger
              rcases resultOf_cases houtput path query d hlogger with
                ⟨failure, records, last, hrest⟩ |
                ⟨result, records, outcome, last, hrest, hresult, hdelivers⟩
              · exact .inl ⟨failure, _, last, hload.bind hrest⟩
              · refine .inr ⟨path, d, result, _, outcome, last, ?_, rfl, hd, hresult,
                  hdelivers.of_tells hload⟩
                rw [Hosted.runOn_bind_of_ok hload.run, hrest]

/-! ## Runs of the program -/

variable [Config.Loader] [Manual] {files made : Files} {args : List Text} {settings : Settings}
  {data query : Option Text} (hasks : Asks files args settings ⟨.run, data, query⟩)
  {now : Timestamp} {logger : Logger}

include hasks in
/-- A run of a query under its log: the query is run, and a failure is logged. -/
theorem start_run_eq
    (hlog : (logSetup settings .run).install now files = (made, .ok logger)) :
    start now files args = sayAborted
      (match runOn (runQuery settings data query)
        { now := now, files := made, logger := logger } with
        | (.ok (), last) => (.done, last)
        | (.error failure, last) =>
            (.aborted, last.record
              ⟨Log.error, Action.run.name ++ " failed: " ++ failure.message⟩)) := by
  rw [start_of_asks hasks, serve_of_install_eq_ok { now := now, files := files } hlog]
  rfl

include hasks in
/-- **A run of a query that ends well** had a log, and delivered the result for its document. -/
theorem exists_delivers_of_exitCode (hexit : (start now files args).1.exitCode = 0) :
    ∃ made logger path d result records,
      (logSetup settings .run).install now files = (made, .ok logger) ∧
        dataPath? settings data = some path ∧
        (runLogged (readDocument made (Files.Path.ofText path))).2 = .ok d ∧
        answer settings.query.spec query d = .ok result ∧
        Delivers settings.output path result { now := now, files := made, logger := logger } records
          (.ok ()) (start now files args).2 := by
  cases hlog : (logSetup settings .run).install now files with
  | mk made outcome =>
      cases outcome with
      | error e =>
          rw [start_of_asks hasks,
            serve_of_install_eq_error { now := now, files := files } hlog] at hexit
          cases hexit
      | ok logger =>
          rw [start_run_eq hasks hlog] at hexit ⊢
          rcases runQuery_cases hasks.accepted data query
              { now := now, files := made, logger := logger }
              fun place hplace => (Log.writesTo_install hlog hplace).1 with
            ⟨failure, records, last, hrun⟩ | ⟨path, d, result, records, outcome, last, hrun, hrest⟩
          · rw [hrun.run] at hexit
            cases hexit
          · rw [hrun] at hexit ⊢
            cases outcome with
            | error failure => cases hexit
            | ok u => exact ⟨made, logger, path, d, result, records, rfl, hrest⟩

end

/-! ## One machine -/

/-- A second early on a winter morning, for runs that are given as examples. -/
def dawn : Timestamp := ⟨2024, 1, 2, 3, 4, 5⟩

namespace OneMachine

/-- Room as one machine has it. -/
scoped instance limits : Limits := Limits.ordinary

/-- Configurations are read up to some depth. -/
scoped instance loader : Config.Loader := Config.yamlLoader 491 1100

/-- There is nothing to say to those who ask for help. -/
scoped instance manual : Manual := ⟨fun _ => ""⟩

end OneMachine

end Winnow.Command
