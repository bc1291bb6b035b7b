import Winnow.Config.Settings
import Winnow.Host
import Winnow.Output.Render

/-!
# Writing results

Results are shown on the console, through the log, and collected for a file of their own.

* `Console`, `ResultFile` — the two writers.
* `Output` — the writers that the settings ask for, the console first.
* `Output.write` — one more result; `Output.finish` — the end of an action.

Section 5.5 of the DocQuery specification: `ConsoleOutputWriter`, `JsonFileWriter`,
`MultiOutputWriter`, `create_output_writer`.
-/

namespace Winnow

open Log (Logged)

/-- Why results are not written. -/
inductive OutputError where
  /-- The settings ask for no writer. -/
  | noWriters
  | write (cause : Json.WriteError)
  | file (cause : Files.FileError)
  deriving DecidableEq

/-- What is said of results that are not written. -/
def OutputError.message : OutputError → Text
  | noWriters => "No output writers configured"
  | write cause => cause.message
  | file cause => cause.message

variable [Limits]

/-! ## The console -/

/-- Shows every result at once. -/
structure Console where
  indent : Nat
  deriving DecidableEq, Inhabited

/-- Logs a result line by line, after the path of its document. -/
def Console.write (console : Console) (result : QueryResult) (dataPath : Option Text) :
    Logged OutputError Unit := do
  if (dataPath.getD "") ≠ "" then
    Log.write Log.info ("Data: " ++ dataPath.getD "")
  match result.text console.indent with
  | .error cause => throw (.write cause)
  | .ok text =>
      for line in Text.splitLines text do
        Log.write Log.info line

/-! ## Result files -/

/-- Collects results and saves them together. -/
structure ResultFile where
  dir : Files.Path
  indent : Nat
  /-- The results so far, in the form in which they are saved. -/
  results : List Item := []
  /-- Where the results were saved last. -/
  savedTo : Option Files.Path := none
  deriving Inhabited

namespace ResultFile

/-- One more result. -/
def add (file : ResultFile) (result : QueryResult) (dataPath : Option Text) : ResultFile :=
  { file with results := file.results ++ [result.entry dataPath] }

/-- The text of the results so far. -/
def text (file : ResultFile) : Except OutputError Text :=
  (Json.write (.indented .resultFile file.indent) (.array file.results)).mapError OutputError.write

/-- The path for the results of an action. -/
def path (file : ResultFile) (now : Timestamp) (action : Text) : Files.Path :=
  file.dir.child (action ++ "_" ++ now.resultMark ++ ".json")

/-- Puts a text into the file of an action and makes the directories above it. What an error leaves
there stays. -/
def store (file : ResultFile) (now : Timestamp) (action text : Text) (files : Files) :
    Files × Except OutputError Files.Path :=
  let path := file.path now action
  match files.makeDirectories file.dir with
  | (made, .error cause) => (made, .error (.file cause))
  | (made, .ok ()) =>
      match made.write path text with
      | (written, .error cause) => (written, .error (.file cause))
      | (written, .ok ()) => (written, .ok path)

/-- Saves the results so far; they stay collected. -/
def save (file : ResultFile) (action : Text) : Hosted OutputError ResultFile := do
  let text ← match file.text with
    | .ok text => pure text
    | .error e => throw e
  let host ← get
  let (files, outcome) := file.store host.now action text host.files
  set { host with files := files }
  match outcome with
  | .error e => throw e
  | .ok path =>
      Host.log Log.info ("JSON saved to " ++ path.text)
      return { file with savedTo := some path }

end ResultFile

/-! ## All writers -/

/-- The writers in use. -/
structure Output where
  console : Option Console := none
  file : Option ResultFile := none
  deriving Inhabited

namespace Output

/-- The writers that the settings ask for. -/
def ofSettings (settings : OutputSettings) : Except OutputError Output :=
  let output : Output :=
    { console := if .console ∈ settings.formats then some ⟨settings.indent⟩ else none
      file :=
        if .json ∈ settings.formats then
          some { dir := (Files.Path.ofText settings.baseDir).child "json"
                 indent := settings.indent }
        else none }
  if output.console.isNone && output.file.isNone then .error .noWriters else .ok output

/-- Writes one result. A result that the console cannot show is not collected. -/
def write (output : Output) (result : QueryResult) (dataPath : Option Text) :
    Logged OutputError Output := do
  if let some console := output.console then
    console.write result dataPath
  return { output with file := output.file.map fun file => file.add result dataPath }

/-- Ends an action: what was collected is saved. -/
def finish (output : Output) (action : Text) : Hosted OutputError Output := do
  match output.file with
  | none => return output
  | some file => return { output with file := some (← file.save action) }

end Output

end Winnow
