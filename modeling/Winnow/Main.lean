import Std.Time.Zoned
import Winnow.Command.Run
import Winnow.Config.Load

/-!
# The program

The program reads the files that a run needs, runs, and puts the files that have changed back in
place.
-/

namespace Winnow.Program

/-- The local time. -/
def now : IO Timestamp := do
  let t ← Std.Time.PlainDateTime.now
  return {
    year := t.date.year.toInt.toNat
    month := t.date.month.val.toNat
    day := t.date.day.val.toNat
    hour := t.time.hour.val.toNat
    minute := t.time.minute.val.toNat
    second := t.time.second.val.toNat }

/-- What stands at a path. What is there and cannot be read as a text is a directory. -/
def look (path : Files.Path) : IO (Option Files.Entry) := do
  try
    return some (.file (← IO.FS.readFile path.text.characters))
  catch
    | .noFileOrDirectory .. => return none
    | _ => return some .directory

/-- The files with what stands at a path and above it. -/
def gather (files : Files) (path : Files.Path) : IO Files := do
  let mut files := files
  let mut place := Files.Location.ofOrigin path.origin
  let mut names := []
  for name in path.names do
    names := names ++ [name]
    place := place.child name
    if place.names ≠ [] then
      match ← look ⟨path.origin, names⟩ with
      | some entry => files := files.put place entry
      | none => return files
  return files

/-- Puts an entry in its place. -/
def store (place : Files.Location) : Files.Entry → IO Unit
  | .directory => IO.FS.createDir place.path.text.characters
  | .file text => IO.FS.writeFile place.path.text.characters text

/-- Shows a line of the error stream. -/
def utter : Notice → IO Unit
  | .text s => IO.eprint s.characters
  | .report cause => IO.eprintln (Files.FileError.message ⟨cause, {}⟩).characters

/-- What is said of the end of a run that ends before there is a log. -/
def lastWords : Command.Ending → Option Text
  | .unsettled (.file cause) => some cause.message
  | .unsettled (.load cause) => some (cause.message.getD "The settings are no YAML text")
  | .unsettled (.setting cause) => some cause.message
  | .unsettled .tooDeep => some ConfigError.depthMessage
  | .unlogged cause => some cause.message
  | .unusable cause => some cause.message
  | _ => none

/-- The program runs with the room of an ordinary machine. -/
instance : Limits := Limits.ordinary

/-- Settings are YAML texts. -/
instance : Config.Loader := Config.yamlLoader 491 1100

/-- There is little help. -/
instance : Command.Manual where
  text
    | none => "Actions: compile, run. Option: --config PATH\n"
    | some .compile => "Option: --data PATH\n"
    | some .run => "Options: --data PATH, --query TEXT\n"

end Winnow.Program

open Winnow in
/-- Runs the program. -/
def main (args : List String) : IO UInt32 := do
  let now ← Program.now
  let args := args.map Text.ofString
  let settings ← (Command.paths now {} args).foldlM Program.gather {}
  let files ← (Command.paths now settings args).foldlM Program.gather settings
  let (ending, host) := Command.start now files args
  for (place, entry) in host.files.changes files do
    Program.store place entry
  IO.print host.out.characters
  host.err.forM Program.utter
  if let some words := Program.lastWords ending then
    IO.eprintln words.characters
  return ending.exitCode.toUInt32
