import Winnow.Files.Tree
import Winnow.Log.Record
import Winnow.Text.Case
import Winnow.Timestamp

/-!
# The logger

Which records reach the console and the log file, and how both are set up.

* `Logger` — the handlers in the order in which they are served, and the level of the logger.
* `Logger.served` — who serves a logger; `Logger.sinks` — where a record goes; `Logger.line` — in
  which form.
* `levelNames`, `levelOfName` — the level that a name stands for; a few names stand for things that
  are no levels.
* `Setup` — a request for handlers; `Setup.install` makes the log file and its directories.

Section 5.1 of the DocQuery specification: `configure_logging`.
-/

namespace Winnow.Log

/-! ## Levels -/

/-- What a name stands for that stands for no level. -/
inductive NoLevel where
  /-- The basic form of a line, a text. -/
  | basicForm
  /-- The table of the styles in which lines are formed. -/
  | styles
  deriving DecidableEq, Inhabited

/-- What is said of a name that stands for no level. -/
def NoLevel.message : NoLevel → Text
  | basicForm => "Unknown level: '%(levelname)s:%(name)s:%(message)s'"
  | styles =>
      "Level not an integer or a valid string: \x7b" ++
        "'%': (<class 'logging.PercentStyle'>, '%(levelname)s:%(name)s:%(message)s'), " ++
        "'\x7b': (<class 'logging.StrFormatStyle'>, " ++
        "'\x7blevelname\x7d:\x7bname\x7d:\x7bmessage\x7d'), " ++
        "'$': (<class 'logging.StringTemplateStyle'>, " ++
        "'$\x7blevelname\x7d:$\x7bname\x7d:$\x7bmessage\x7d')\x7d"

/-- The levels by their names. -/
def levelNames : List (Text × Int) := [
  ("NOTSET", 0), ("DEBUG", debug), ("INFO", info), ("WARN", warning), ("WARNING", warning),
  ("ERROR", error), ("FATAL", critical), ("CRITICAL", critical)]

/-- The level that a name stands for; unknown names stand for plain information. -/
def levelOfName (name : Text) : Except NoLevel Int :=
  let name : Text := if name = "" then "INFO" else Text.upper name
  if name = "BASIC_FORMAT" then .error .basicForm
  else if name = "_STYLES" then .error .styles
  else .ok ((levelNames.lookup name).getD info)

/-- The mark of a level at the head of a line. -/
def levelMark (level : Int) : Text :=
  if level = debug then "DEBG"
  else if level = info then "INFO"
  else if level = warning then "WARN"
  else if level = error ∨ level = critical then "ERRO"
  else if level = 0 then "NOTS"
  else "Leve"

/-- A record as it is written at a time. -/
def Record.line (now : Timestamp) (r : Record) : Text :=
  now.lineHead ++ " [" ++ levelMark r.level ++ "] " ++ r.message ++ "\n"

/-! ## Handlers -/

/-- Where lines go. -/
inductive Sink where
  | console
  | file (place : Files.Location)
  deriving DecidableEq, Inhabited

/-- A sink with the least level of what goes there. -/
structure Handler where
  sink : Sink
  level : Int
  deriving DecidableEq, Inhabited

/-- The handlers and the level of the logger. -/
structure Logger where
  handlers : List Handler := []
  level : Int := debug
  deriving DecidableEq, Inhabited

namespace Logger

/-- The least level that passes the logger. A logger without a level of its own lets warnings
pass. -/
def threshold (logger : Logger) : Int :=
  if logger.level = 0 then warning else logger.level

/-- The handlers that serve a logger. One that has none is served by the console, from warnings
on. -/
def served (logger : Logger) : List Handler :=
  if logger.handlers = [] then [⟨.console, warning⟩] else logger.handlers

/-- The sinks that a record of a level reaches. -/
def sinks (logger : Logger) (level : Int) : List Sink :=
  if level < logger.threshold then []
  else (logger.served.filter fun h => h.level ≤ level).map Handler.sink

/-- A record as a logger writes it at a time; without handlers there is nothing but the message. -/
def line (logger : Logger) (now : Timestamp) (r : Record) : Text :=
  if logger.handlers = [] then r.message ++ "\n" else r.line now

end Logger

/-! ## Setting up -/

/-- The path of the log file of an action. -/
def filePath (now : Timestamp) (dir action : Text) : Files.Path :=
  ((Files.Path.ofText (if dir = "" then "log" else dir)).child action).child
    (action ++ "_" ++ now.logMark ++ ".log")

/-- A request for handlers: the level of the console, and for an action perhaps also a file. -/
structure Setup where
  level : Text := "INFO"
  action : Option Text := none
  toFile : Bool := false
  dir : Text := "log"
  deriving DecidableEq, Inhabited

/-- Why the handlers are not set up. -/
inductive SetupError where
  | level (cause : NoLevel)
  | file (cause : Files.FileError)
  deriving DecidableEq, Inhabited

/-- What is said of handlers that are not set up. -/
def SetupError.message : SetupError → Text
  | level cause => cause.message
  | file cause => cause.message

namespace Setup

/-- The log file that is asked for. -/
def path? (setup : Setup) (now : Timestamp) : Option Files.Path :=
  match setup.action with
  | none => none
  | some action =>
      if setup.toFile && action ≠ "" then some (filePath now setup.dir action) else none

/-- The logger with the console at a level, and with a file if there is one. -/
def logger (level : Int) (file? : Option Files.Location) : Logger where
  handlers := ⟨.console, level⟩ :: file?.toList.map fun place => ⟨.file place, debug⟩
  level := min debug level

/-- The handlers that were set up serve. -/
@[simp] theorem served_logger (level : Int) (file? : Option Files.Location) :
    (logger level file?).served = (logger level file?).handlers :=
  if_neg (List.cons_ne_nil _ _)

/-- Where handlers were set up, lines have their heads. -/
@[simp] theorem line_logger (level : Int) (file? : Option Files.Location) (now : Timestamp)
    (r : Record) :
    (logger level file?).line now r = r.line now :=
  if_neg (List.cons_ne_nil _ _)

/-- Makes the log file and its directories and gives the new logger. The level is looked up before
anything is made; directories made before an error stay. -/
def install (setup : Setup) (now : Timestamp) (files : Files) :
    Files × Except SetupError Logger :=
  match levelOfName setup.level, setup.path? now with
  | .error cause, _ => (files, .error (.level cause))
  | .ok level, none => (files, .ok (logger level none))
  | .ok level, some path =>
      match files.makeDirectories path.parent with
      | (made, .error cause) => (made, .error (.file cause))
      | (made, .ok ()) =>
          match made.target path with
          | .error cause => (made, .error (.file cause))
          | .ok place => (made.touch place, .ok (logger level (some place)))

end Setup

end Winnow.Log
