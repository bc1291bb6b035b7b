import Winnow.Log.Logger

/-!
# The host

What a run of the program finds and what it leaves: the time, the files, the log, and the standard
streams.

* `Host` — the state that a run goes through.
* `Notice` — what appears on the error stream.
* `Hosted ε` — computations on it that may fail; what they did before failing stays.
* `Host.record` — handing a record to the logger.
-/

namespace Winnow

open Log (Logged Logger Record Setup SetupError Sink)

/-- What appears on the error stream. -/
inductive Notice where
  | text (s : Text)
  /-- A report of why a line did not get into the log file. -/
  | report (cause : Files.FileErrorKind)
  deriving DecidableEq, Inhabited

/-- The surroundings of a run. -/
structure Host where
  now : Timestamp
  files : Files := {}
  logger : Logger := {}
  /-- All records that were handed to the logger. -/
  records : List Record := []
  out : Text := ""
  err : List Notice := []
  deriving Inhabited

/-- Computations on a host that may fail. -/
abbrev Hosted (ε : Type) := ExceptT ε (StateM Host)

namespace Host

/-- Shows something on the error stream. -/
def notify (host : Host) (notice : Notice) : Host := { host with err := host.err ++ [notice] }

/-- Puts a line into a sink. What does not get into a file is reported on the error stream, and the
run goes on. -/
def put (line : Text) (host : Host) : Sink → Host
  | .console => host.notify (.text line.escaped)
  | .file place =>
      match host.files.append place line with
      | (files, .ok ()) => { host with files := files }
      | (files, .error cause) => { host with files := files }.notify (.report cause)

/-- Hands a record to the logger. -/
def record (host : Host) (r : Record) : Host :=
  { (host.logger.sinks r.level).foldl (put (host.logger.line host.now r)) host with
    records := host.records ++ [r] }

/-- Sets up the logger. If that fails, the logger stays as it was. -/
def setUpLog (setup : Setup) : Hosted SetupError Unit := do
  let host ← get
  match setup.install host.now host.files with
  | (files, .ok logger) => set { host with files := files, logger := logger }
  | (files, .error e) =>
      set { host with files := files }
      throw e

/-- Logs one message. -/
def log {ε : Type} (level : Int) (message : Text) : Hosted ε Unit :=
  modify fun host => host.record ⟨level, message⟩

/-- Runs a computation that logs, handing its records to the logger. -/
def logging {ε α : Type} (x : Logged ε α) : Hosted ε α := do
  let (records, outcome) := Log.runLogged x
  modify fun host => records.foldl record host
  match outcome with
  | .ok value => return value
  | .error e => throw e

/-- Writes to the standard output, if the text can be encoded. -/
def print (text : Text) : Hosted Text.Fault Unit :=
  match text.encode with
  | .ok _ => modify fun host => { host with out := host.out ++ text }
  | .error fault => throw fault

end Host

end Winnow
