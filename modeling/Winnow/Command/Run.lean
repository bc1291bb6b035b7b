import Winnow.Command.Arguments
import Winnow.Command.Failure
import Winnow.Config.Layers

/-!
# Running a command

* `compileQuery`, `runQuery` — the two actions, given settings.
* `serve` — an action with its log: whatever fails in it is logged and ends it.
* `execute`, `start` — a run of the program from its arguments on.

Sections 5.3 and 5.4 of the DocQuery specification: the runner, the commands `compile` and `run`.
-/

namespace Winnow.Command

/-! ## Actions -/

/-- The path that counts: the one of the arguments, unless it is missing or empty. -/
def dataPath? (settings : Settings) (data : Option Text) : Option Text :=
  (data.filter (· ≠ .ofString "")).or settings.query.dataPath

/-- The service for the language of the settings. -/
def serviceOf (settings : Settings) : Hosted Failure Service :=
  match Language.find settings.query.language with
  | .ok language => return ⟨language⟩
  | .error cause => throw (.language cause)

variable [Limits]

/-- The document in the file of a path. -/
def document (path : Text) : Hosted Failure Json.Document := do
  let host ← get
  (Host.logging (readDocument host.files (Files.Path.ofText path))).adapt Failure.document

/-- Prints the query text of the specification in the settings. Without a document, it is made for
an array. -/
def compileQuery (settings : Settings) (data : Option Text) : Hosted Failure Unit := do
  let service ← serviceOf settings
  let item ← match dataPath? settings data with
    | some path => document path
    | none => pure (.array [])
  let compiled := service.compile (Expr.Item.ofDocument item) settings.query.spec
  let query ← (Host.logging compiled).adapt Failure.query
  (Host.print (query ++ "\n")).adapt Failure.print

/-- The result of a query text, or else of the specification in the settings. -/
def resultOf (service : Service) (spec : Spec) (query : Option Text) (item : Item) :
    Hosted Failure QueryResult := do
  match query with
  | some text =>
      Host.log Log.info "Using query text from command line"
      (Host.logging (service.execute item text)).adapt Failure.query
  | none => (Host.logging (service.run item spec)).adapt Failure.query

/-- Runs a query and writes its result. -/
def runQuery (settings : Settings) (data query : Option Text) : Hosted Failure Unit := do
  let path ← match dataPath? settings data with
    | some path => pure path
    | none => throw .noData
  let output ← match Output.ofSettings settings.output with
    | .ok output => pure output
    | .error cause => throw (.output cause)
  let service ← serviceOf settings
  let item ← document path
  let result ← resultOf service settings.query.spec query (Expr.Item.ofDocument item)
  let output ← (Host.logging (output.write result (some path))).adapt Failure.output
  let _ ← (output.finish Action.run.name).adapt Failure.output

/-- Does what is asked for. -/
def perform (settings : Settings) (request : Request) : Hosted Failure Unit :=
  match request.action with
  | .compile => compileQuery settings request.data
  | .run => runQuery settings request.data request.query

/-! ## Runs -/

/-- How a run of the program ends. -/
inductive Ending where
  | done
  /-- Help was asked for and printed. -/
  | helped
  /-- The action failed, and the log says why. -/
  | aborted
  /-- The arguments make no call. -/
  | misused
  /-- A path among the arguments cannot be looked up. -/
  | unusable (cause : Files.FileError)
  /-- There are no settings. -/
  | unsettled (cause : ConfigError)
  /-- The log could not be set up. -/
  | unlogged (cause : Log.SetupError)
  deriving DecidableEq

/-- The exit code of a run. -/
def Ending.exitCode : Ending → Nat
  | done => 0
  | helped => 0
  | misused => 2
  | _ => 1

/-- The log that the settings ask for. -/
def logSetup (settings : Settings) (action : Action) : Log.Setup where
  level := settings.log.level.name
  action := some action.name
  toFile := settings.log.toFile
  dir := settings.log.dir

/-- Sets up the log and does what is asked for; a failure is logged. -/
def serve (settings : Settings) (request : Request) : StateM Host Ending := do
  match ← (Host.setUpLog (logSetup settings request.action)).run with
  | .error cause => return .unlogged cause
  | .ok () =>
      match ← (perform settings request).run with
      | .ok () => return .done
      | .error failure =>
          modify fun host => host.record
            ⟨Log.error, request.action.name ++ " failed: " ++ failure.message⟩
          return .aborted

/-- Whether the value of a path option names a directory. The empty text names nothing. -/
def namesDirectory (files : Files) (value : Option Text) : Except Files.FileError Bool :=
  match value with
  | none => .ok false
  | some text =>
      let path := Files.Path.ofText text
      match text.pathFault? with
      | some fault => .error ⟨.unencodable fault, path⟩
      | none =>
          if path.isSound then .ok (text ≠ "" && files.isDirectory path)
          else .error ⟨.unsound, path⟩

/-- The path of the settings that the arguments ask for. -/
def Parsed.configText (parsed : Parsed) : Text :=
  (parsed.value? "--config").getD Config.defaultPath.text

/-- What is printed for those who ask for help. -/
class Manual where
  /-- What is said of the program as a whole, or of an action. -/
  text : Option Action → Text

variable [Config.Loader] [Manual]

/-- The settings that the arguments ask for. -/
def Parsed.settings (parsed : Parsed) (files : Files) : Except ConfigError Settings :=
  Settings.loadOver files (Files.Path.ofText parsed.configText) Config.defaultPath

/-- Prints what is said of the program or of an action. -/
def showHelp (action : Option Action) : StateM Host Ending := do
  modify fun host => { host with out := host.out ++ Manual.text action }
  return .helped

/-- Does what the arguments of an action ask for, given settings. -/
def executeAction (settings : Settings) (action : Action) (args : List Text) :
    StateM Host Ending := do
  let host ← get
  match Parsed.ofAction? action args with
  | none => return .misused
  | some parsed =>
      if parsed.help then return ← showHelp (some action)
      let request := Request.ofParsed action parsed
      match namesDirectory host.files request.data with
      | .error cause => return .unusable cause
      | .ok true => return .misused
      | .ok false =>
          if parsed.others ≠ [] then return .misused
          let ending ← serve settings request
          if ending = .aborted then
            modify fun host => host.notify (.text "Aborted!\n")
          return ending

/-- What comes of arguments that name no action. Where its name should stand, options are read once
more. -/
def withoutAction (files : Files) (parsed : Parsed) : StateM Host Ending := do
  match Parsed.ofArguments? parsed.others with
  | none => return .misused
  | some again =>
      if again.help then return ← showHelp none
      match namesDirectory files (some again.configText) with
      | .error cause => return .unusable cause
      | .ok _ => return .misused

/-- Runs the program: the options of the program are read, then the settings, then the request. -/
def execute (args : List Text) : StateM Host Ending := do
  let host ← get
  match Parsed.ofArguments? args with
  | none => return .misused
  | some parsed =>
      if parsed.help then return ← showHelp none
      match namesDirectory host.files (some parsed.configText), parsed.action? with
      | .error cause, _ => return .unusable cause
      | .ok true, _ => return .misused
      | .ok false, none => withoutAction host.files parsed
      | .ok false, some (action, rest) =>
          match parsed.settings host.files with
          | .error cause => return .unsettled cause
          | .ok settings => executeAction settings action rest

/-- Runs the program on a fresh log and fresh streams. -/
def start (now : Timestamp) (files : Files) (args : List Text) : Ending × Host :=
  (execute args).run { now := now, files := files }

/-! ## Paths -/

/-- The paths of the files that an action reads or writes under settings. -/
def actionPaths (now : Timestamp) (settings : Settings) (action : Action) (args : List Text) :
    List Files.Path :=
  let request := (Parsed.ofAction? action args).map (Request.ofParsed action)
  let data := (request.bind fun request => dataPath? settings request.data).toList
  let log := ((logSetup settings action).path? now).toList
  let result := match Output.ofSettings settings.output with
    | .ok output => (output.file.map fun file => file.path now action.name).toList
    | .error _ => []
  data.map Files.Path.ofText ++ log ++ result

/-- The paths that a run reads or writes, as far as the files tell. -/
def paths (now : Timestamp) (files : Files) (args : List Text) : List Files.Path :=
  match Parsed.ofArguments? args with
  | none => []
  | some parsed =>
      let config := [Config.defaultPath, Files.Path.ofText parsed.configText]
      match parsed.settings files, parsed.action? with
      | .ok settings, some (action, rest) => config ++ actionPaths now settings action rest
      | _, _ => config

end Winnow.Command
