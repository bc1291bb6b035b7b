import Winnow.Command.Run
import Winnow.Proofs.Command.Arguments
import Winnow.Proofs.Config.Settings
import Winnow.Proofs.DocumentFile
import Winnow.Proofs.Host
import Winnow.Proofs.Spec.Run

/-!
# Runs of the program

* `serve_run`, `serve_of_install_eq_ok`, `serve_of_install_eq_error` — an action with its log.
* `Asks` — arguments that ask for a request; `start_of_asks`, `start_cases` — what a run does with
  them.
* `start_arguments` — a run of the program from the arguments that spell a request.
* `exists_of_exitCode_eq_zero` — a run that ends well has done what was asked for.
* `compileQuery_eq`, `runQuery_eq` — the actions under accepted settings.
* `exists_of_compileQuery` — what is printed for a document.
-/

namespace Winnow.Command

open Hosted (runOn)
open Expr.Item (ofDocument)
open Json (Document)
open Log (runLogged)

/-! ## Running -/

theorem run_bind_of_run {α β : Type} {x : StateM Host α} {f : α → StateM Host β} {host after : Host}
    {a : α} (h : x.run host = (a, after)) : (x >>= f).run host = (f a).run after := by
  rw [StateT.run_bind, h]
  rfl

theorem run_get_bind {α : Type} (f : Host → StateM Host α) (host : Host) :
    (get >>= f).run host = (f host).run host := rfl

/-- A run that was aborted says so. -/
def sayAborted (run : Ending × Host) : Ending × Host :=
  (run.1, if run.1 = .aborted then run.2.notify (.text "Aborted!\n") else run.2)

theorem sayAborted_of_ne {ending : Ending} (h : ending ≠ .aborted) (host : Host) :
    sayAborted (ending, host) = (ending, host) := by
  rw [sayAborted, if_neg h]

theorem sayAborted_done (host : Host) : sayAborted (.done, host) = (.done, host) :=
  sayAborted_of_ne (by decide) host

theorem sayAborted_aborted (host : Host) :
    sayAborted (.aborted, host) = (.aborted, host.notify (.text "Aborted!\n")) := by
  rw [sayAborted, if_pos rfl]

theorem files_sayAborted (run : Ending × Host) : (sayAborted run).2.files = run.2.files := by
  unfold sayAborted
  split_ifs <;> rfl

/-! ## Serving -/

theorem path?_logSetup (settings : Settings) (action : Action) (now : Timestamp) :
    (logSetup settings action).path? now =
      if settings.log.toFile then some (Log.filePath now settings.log.dir action.name)
        else none := by
  have hname : action.name ≠ "" := by cases action <;> decide
  simp [logSetup, Log.Setup.path?, hname]

section

variable [Limits] {settings : Settings} {request : Request} {host last : Host} {made : Files}

/-- **An action with its log**: the log is set up first, and a failure of the action is logged. -/
theorem serve_run (settings : Settings) (request : Request) (host : Host) :
    (serve settings request).run host =
      match runOn (Host.setUpLog (logSetup settings request.action)) host with
      | (.error cause, after) => (.unlogged cause, after)
      | (.ok (), after) =>
          match runOn (perform settings request) after with
          | (.ok (), last) => (.done, last)
          | (.error failure, last) =>
              (.aborted, last.record
                ⟨Log.error, request.action.name ++ " failed: " ++ failure.message⟩) := by
  unfold serve
  cases hsetup : runOn (Host.setUpLog (logSetup settings request.action)) host with
  | mk outcome after =>
      rw [run_bind_of_run hsetup]
      cases outcome with
      | error cause => rfl
      | ok u =>
          dsimp only
          cases hperform : runOn (perform settings request) after with
          | mk outcome last =>
              rw [run_bind_of_run hperform]
              cases outcome <;> rfl

/-- Where the log cannot be set up, the run ends there. -/
theorem serve_of_install_eq_error (host : Host) {cause : Log.SetupError}
    (h : (logSetup settings request.action).install host.now host.files = (made, .error cause)) :
    (serve settings request).run host = (.unlogged cause, { host with files := made }) := by
  rw [serve_run, Hosted.runOn_setUpLog, h]

/-- Under its log, the action is done, or its failure is logged. -/
theorem serve_of_install_eq_ok (host : Host) {logger : Log.Logger}
    (h : (logSetup settings request.action).install host.now host.files = (made, .ok logger)) :
    (serve settings request).run host =
      match runOn (perform settings request) { host with files := made, logger := logger } with
      | (.ok (), last) => (.done, last)
      | (.error failure, last) =>
          (.aborted, last.record
            ⟨Log.error, request.action.name ++ " failed: " ++ failure.message⟩) := by
  rw [serve_run, Hosted.runOn_setUpLog, h]

/-- An action that is served well had its log, and was done. -/
theorem exists_of_serve {ending : Ending} (h : (serve settings request).run host = (ending, last))
    (hexit : ending.exitCode = 0) :
    ending = .done ∧ ∃ after,
      runOn (Host.setUpLog (logSetup settings request.action)) host = (.ok (), after) ∧
        runOn (perform settings request) after = (.ok (), last) := by
  rw [serve_run] at h
  split at h
  · cases h
    cases hexit
  · next after hsetup =>
      split at h
      · next last' hperform =>
          cases h
          exact ⟨rfl, after, hsetup, hperform⟩
      · cases h
        cases hexit

end

/-! ## Doing what is asked for -/

/-- A run that was asked for help prints it. -/
def helped [Manual] (action : Option Action) (host : Host) : Ending × Host :=
  (.helped, { host with out := host.out ++ Manual.text action })

/-- An action is served if its arguments are understood to the end and do not ask for help, and its
document is not a directory. -/
theorem executeAction_run [Limits] [Manual] (settings : Settings) (action : Action)
    (args : List Text)
    (host : Host) :
    (executeAction settings action args).run host =
      match Parsed.ofAction? action args with
      | none => (.misused, host)
      | some parsed =>
          if parsed.help then helped (some action) host
          else match namesDirectory host.files (Request.ofParsed action parsed).data with
            | .error cause => (.unusable cause, host)
            | .ok true => (.misused, host)
            | .ok false =>
                if parsed.others ≠ [] then (.misused, host)
                else sayAborted ((serve settings (Request.ofParsed action parsed)).run host) := by
  rw [executeAction, run_get_bind]
  cases Parsed.ofAction? action args with
  | none => rfl
  | some parsed =>
      dsimp only
      by_cases hhelp : parsed.help = true
      · rw [if_pos hhelp, if_pos hhelp]
        rfl
      · rw [if_neg hhelp, if_neg hhelp]
        cases namesDirectory host.files (Request.ofParsed action parsed).data with
        | error cause => rfl
        | ok names =>
            cases names with
            | true => rfl
            | false =>
                dsimp only
                by_cases hothers : parsed.others = []
                · rw [if_neg (not_not.2 hothers), if_neg (not_not.2 hothers)]
                  cases hserve : (serve settings (Request.ofParsed action parsed)).run host with
                  | mk ending after =>
                      rw [run_bind_of_run hserve, sayAborted]
                      cases ending <;> rfl
                · rw [if_pos hothers, if_pos hothers]
                  rfl

/-- Arguments without an action are misuse of one kind or another, unless they ask for help. -/
theorem withoutAction_cases [Manual] (files : Files) (parsed : Parsed) (host : Host) :
    (withoutAction files parsed).run host = helped none host ∨
      ((withoutAction files parsed).run host).1.exitCode ≠ 0 ∧
        ((withoutAction files parsed).run host).2 = host := by
  unfold withoutAction
  cases Parsed.ofArguments? parsed.others with
  | none => exact .inr ⟨Nat.succ_ne_zero _, rfl⟩
  | some again =>
      dsimp only
      by_cases hhelp : again.help = true
      · rw [if_pos hhelp]
        exact .inl rfl
      · rw [if_neg hhelp]
        cases namesDirectory files (some again.configText) with
        | error cause => exact .inr ⟨Nat.succ_ne_zero _, rfl⟩
        | ok names => exact .inr ⟨Nat.succ_ne_zero _, rfl⟩

/-! ## Runs of the program -/

/-- Arguments ask for a request under settings that the files hold: they are understood to their
end, they do not ask for help, and no path among them names a directory. -/
def Asks [Limits] [Config.Loader] (files : Files) (args : List Text) (settings : Settings)
    (request : Request) : Prop :=
  ∃ parsed rest given, Parsed.ofArguments? args = some parsed ∧ parsed.help = false ∧
    parsed.action? = some (request.action, rest) ∧
    namesDirectory files (some parsed.configText) = .ok false ∧
    parsed.settings files = .ok settings ∧
    Parsed.ofAction? request.action rest = some given ∧ given.help = false ∧ given.others = [] ∧
    Request.ofParsed request.action given = request ∧
    namesDirectory files request.data = .ok false

theorem Asks.accepted [Limits] [Config.Loader] {files : Files} {args : List Text}
    {settings : Settings} {request : Request} (h : Asks files args settings request) :
    settings.Accepted := by
  obtain ⟨parsed, -, -, -, -, -, -, hsettings, -⟩ := h
  exact Config.accepted_of_loadOver hsettings

section

variable [Limits] [Config.Loader] [Manual]

/-- **A run that is asked for a request** serves it. -/
theorem start_of_asks {files : Files} {args : List Text} {settings : Settings} {request : Request}
    (h : Asks files args settings request) (now : Timestamp) :
    start now files args =
      sayAborted ((serve settings request).run { now := now, files := files }) := by
  obtain ⟨parsed, rest, given, hparsed, hhelp, haction, hconfig, hsettings, hgiven, hnoHelp,
    hothers, hrequest, hdata⟩ := h
  rw [start, execute, run_get_bind, hparsed]
  dsimp only
  rw [hhelp, if_neg Bool.false_ne_true, hconfig, haction]
  dsimp only
  rw [hsettings]
  dsimp only
  rw [executeAction_run, hgiven]
  dsimp only
  rw [hnoHelp, if_neg Bool.false_ne_true, hrequest, hdata, hothers]
  rfl

/-- **A run of the program** is asked for a request; or it prints help; or it ends without success
and leaves everything as it was. -/
theorem start_cases (now : Timestamp) (files : Files) (args : List Text) :
    (∃ settings request, Asks files args settings request) ∨
      (∃ action, start now files args = helped action { now := now, files := files }) ∨
      (start now files args).1.exitCode ≠ 0 ∧
        (start now files args).2 = { now := now, files := files } := by
  rw [start, execute, run_get_bind]
  cases hparsed : Parsed.ofArguments? args with
  | none => exact .inr (.inr ⟨Nat.succ_ne_zero _, rfl⟩)
  | some parsed =>
      dsimp only
      by_cases hhelp : parsed.help = true
      · rw [if_pos hhelp]
        exact .inr (.inl ⟨none, rfl⟩)
      rw [if_neg hhelp]
      split
      · exact .inr (.inr ⟨Nat.succ_ne_zero _, rfl⟩)
      · exact .inr (.inr ⟨Nat.succ_ne_zero _, rfl⟩)
      · exact .inr ((withoutAction_cases files parsed _).imp (fun h => ⟨none, h⟩) id)
      · next action rest hconfig haction =>
          cases hsettings : parsed.settings files with
          | error cause => exact .inr (.inr ⟨Nat.succ_ne_zero _, rfl⟩)
          | ok settings =>
              dsimp only
              rw [executeAction_run]
              cases hgiven : Parsed.ofAction? action rest with
              | none => exact .inr (.inr ⟨Nat.succ_ne_zero _, rfl⟩)
              | some given =>
                  dsimp only
                  by_cases hgivenHelp : given.help = true
                  · rw [if_pos hgivenHelp]
                    exact .inr (.inl ⟨some action, rfl⟩)
                  rw [if_neg hgivenHelp]
                  split
                  · exact .inr (.inr ⟨Nat.succ_ne_zero _, rfl⟩)
                  · exact .inr (.inr ⟨Nat.succ_ne_zero _, rfl⟩)
                  · next hdata =>
                      split_ifs with hothers
                      · exact .inr (.inr ⟨Nat.succ_ne_zero _, rfl⟩)
                      · left
                        exact ⟨settings, Request.ofParsed action given, parsed, rest, given,
                          hparsed, Bool.eq_false_iff.2 hhelp, haction, hconfig, hsettings, hgiven,
                          Bool.eq_false_iff.2 hgivenHelp, not_not.1 hothers, rfl, hdata⟩

section

variable {request : Request} (hquery : request.query = none ∨ request.action = .run)
  {config : Option Text} {files : Files} {settings : Settings}
  (hsettings : (Parsed.ofConfig config []).settings files = .ok settings)

include hquery hsettings

/-- **A run of the program** from the arguments that spell a request. The paths that are given must
not name directories; then the request is served. -/
theorem start_arguments (now : Timestamp) :
    start now files (request.arguments config) =
      match namesDirectory files (some (Parsed.ofConfig config []).configText),
          namesDirectory files request.data with
      | .error cause, _ => (.unusable cause, { now := now, files := files })
      | .ok true, _ => (.misused, { now := now, files := files })
      | .ok false, .error cause => (.unusable cause, { now := now, files := files })
      | .ok false, .ok true => (.misused, { now := now, files := files })
      | .ok false, .ok false =>
          sayAborted ((serve settings request).run { now := now, files := files }) := by
  let parsed := Parsed.ofConfig config (request.action.name :: request.optionArguments)
  have hhelp : ¬parsed.help = true := Bool.false_ne_true
  have haction : parsed.action? = some (request.action, request.optionArguments) := by
    change (Action.ofName? request.action.name).map _ = _
    rw [ofName?_name]
    rfl
  have htext : parsed.configText = (Parsed.ofConfig config []).configText := rfl
  have hparsed : parsed.settings files = .ok settings := hsettings
  rw [start, execute, run_get_bind, ofArguments?_arguments]
  dsimp only
  rw [if_neg hhelp, haction, htext]
  cases namesDirectory files (some (Parsed.ofConfig config []).configText) with
  | error cause => rfl
  | ok names =>
      cases names with
      | true => rfl
      | false =>
          dsimp only
          rw [hparsed]
          dsimp only
          rw [executeAction_run, ofAction?_optionArguments hquery]
          dsimp only
          rw [if_neg (by exact Bool.false_ne_true), ofParsed_parsed]
          cases namesDirectory files request.data with
          | error cause => rfl
          | ok names => cases names <;> rfl

/-- **A run that ends well** was given no directories and has done what was asked for. -/
theorem exists_of_exitCode_eq_zero {now : Timestamp}
    (hexit : (start now files (request.arguments config)).1.exitCode = 0) :
    namesDirectory files (some (Parsed.ofConfig config []).configText) = .ok false ∧
      namesDirectory files request.data = .ok false ∧
      ∃ after last,
        runOn (Host.setUpLog (logSetup settings request.action)) { now := now, files := files } =
          (.ok (), after) ∧
        runOn (perform settings request) after = (.ok (), last) ∧
        start now files (request.arguments config) = (.done, last) := by
  rw [start_arguments hquery hsettings now] at hexit ⊢
  split at hexit
  · cases hexit
  · cases hexit
  · cases hexit
  · cases hexit
  · next hconfig hdata =>
      refine ⟨hconfig, hdata, ?_⟩
      cases hserve : (serve settings request).run { now := now, files := files } with
      | mk ending last =>
          rw [hserve] at hexit
          obtain ⟨rfl, after, hsetup, hperform⟩ := exists_of_serve hserve hexit
          exact ⟨after, last, hsetup, hperform, rfl⟩

end

end

/-! ## Actions -/

section

variable {settings : Settings} (hsettings : settings.Accepted) {path : Text} (hpath : path ≠ "")

include hpath in
/-- A path that is given counts. -/
theorem dataPath?_some : dataPath? settings (some path) = some path := by
  simp [dataPath?, Option.filter, hpath]

include hsettings in
theorem serviceOf_eq : serviceOf settings = pure ⟨Language.jmesPath⟩ := by
  rw [serviceOf, hsettings.language]

variable [Limits]

/-- The document of the path that counts, or an array where there is none. -/
def givenDocument (settings : Settings) (data : Option Text) : Hosted Failure Document :=
  match dataPath? settings data with
  | some path => document path
  | none => pure (.array [])

/-- The query for the document that is given. -/
def givenQuery (settings : Settings) (data : Option Text) : Hosted Failure Text := do
  let item ← givenDocument settings data
  (Host.logging (Service.compile ⟨Language.jmesPath⟩ (ofDocument item)
    settings.query.spec)).adapt Failure.query

include hsettings in
theorem compileQuery_eq (data : Option Text) :
    compileQuery settings data =
      givenQuery settings data >>= fun query =>
        (Host.print (query ++ "\n")).adapt Failure.print := by
  rw [compileQuery, serviceOf_eq hsettings, pure_bind, givenQuery, givenDocument, bind_assoc]
  cases dataPath? settings data <;> rfl

/-- A result is written, and the run is ended. -/
def writeResult (output : Output) (path : Text) (result : QueryResult) : Hosted Failure Unit := do
  let output ← (Host.logging (output.write result (some path))).adapt Failure.output
  let _ ← (output.finish Action.run.name).adapt Failure.output

include hsettings in
theorem runQuery_eq {data : Option Text} (hdata : dataPath? settings data = some path)
    {output : Output} (houtput : Output.ofSettings settings.output = .ok output)
    (query : Option Text) :
    runQuery settings data query = (do
      let item ← document path
      let result ← resultOf ⟨Language.jmesPath⟩ settings.query.spec query (ofDocument item)
      writeResult output path result) := by
  rw [runQuery, hdata, houtput, serviceOf_eq hsettings]
  rfl

theorem runOn_document (path : Text) (host : Host) :
    runOn (document path) host =
      ((runLogged (readDocument host.files (Files.Path.ofText path))).2.mapError Failure.document,
        (runLogged
          (readDocument host.files (Files.Path.ofText path))).1.foldl Host.record host) := by
  rw [document, Hosted.runOn_bind_of_ok (Hosted.runOn_get host), Hosted.runOn_adapt,
    Hosted.runOn_logging]

theorem onlyLogs_document (path : Text) : (document path).OnlyLogs :=
  fun host => ⟨_, _, runOn_document path host⟩

/-- A query is found without a change to anything but the log. -/
theorem onlyLogs_givenQuery (settings : Settings) (data : Option Text) :
    (givenQuery settings data).OnlyLogs := by
  have hdocument : (givenDocument settings data).OnlyLogs := by
    unfold givenDocument
    split
    · exact onlyLogs_document _
    · exact fun host => ⟨_, [], rfl⟩
  exact hdocument.bind fun _ => (Hosted.onlyLogs_logging _).adapt _

/-- A result is found without a change to anything but the log. -/
theorem onlyLogs_resultOf (service : Service) (spec : Spec) (query : Option Text) (v : Item) :
    (resultOf service spec query v).OnlyLogs := by
  cases query with
  | none => exact (Hosted.onlyLogs_logging _).adapt _
  | some text =>
      exact (Hosted.onlyLogs_log _ _).bind fun _ => (Hosted.onlyLogs_logging _).adapt _

include hsettings hpath in
/-- **What is printed** for a document is the query of the specification, on a line of its own. -/
theorem exists_of_compileQuery {host last : Host}
    (h : runOn (compileQuery settings (some path)) host = (.ok (), last)) :
    ∃ d query, (runLogged (readDocument host.files (Files.Path.ofText path))).2 = .ok d ∧
      Language.jmesPath.compile (ofDocument d) settings.query.spec = .ok query ∧
      last.out = host.out ++ (query ++ "\n") := by
  rw [compileQuery_eq hsettings] at h
  obtain ⟨query, compiled, hgiven, h⟩ := Hosted.exists_of_runOn_bind h
  rw [givenQuery, givenDocument, dataPath?_some hpath] at hgiven
  obtain ⟨d, read, hread, hcompile⟩ := Hosted.exists_of_runOn_bind hgiven
  obtain ⟨-, -, hout⟩ := (onlyLogs_document path).after_eq hread
  obtain ⟨-, -, hout'⟩ := ((Hosted.onlyLogs_logging _).adapt Failure.query).after_eq hcompile
  rw [runOn_document] at hread
  rw [Hosted.runOn_adapt, Hosted.runOn_logging] at hcompile
  rw [Hosted.runOn_adapt, Hosted.runOn_print] at h
  have hquery := eq_ok_of_mapError_eq_ok (Prod.mk.inj hcompile).1
  rw [outcome_compile] at hquery
  refine ⟨d, query, eq_ok_of_mapError_eq_ok (Prod.mk.inj hread).1,
    eq_ok_of_mapError_eq_ok hquery, ?_⟩
  -- a query that cannot be encoded is not printed, so the action would have failed
  split at h
  · obtain rfl := (Prod.mk.inj h).2
    dsimp only
    rw [hout', hout]
  · cases h

end

end Winnow.Command
