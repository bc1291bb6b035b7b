import Winnow.Text.Basic

/-!
# Arguments

An option is given as `--name value` or `--name=value`, and of several values the last counts. The
options of the program stand before the name of the action, those of the action anywhere after it.
Two dashes alone end the options. One option has no value: the one that asks for help.

* `readOptions` — the options in a list of arguments, and the other arguments.
* `Parsed` — what is read from the arguments of the program, or from those of an action.
* `Request` — what an action is asked to do.

Section 5.4 of the DocQuery specification: `docquery [--config PATH] compile` and `run`.
-/

namespace Winnow.Command

/-- Whether an argument is an option: a dash with something after it. -/
def isOption (arg : Text) : Bool :=
  match arg.toList with
  | .char '-' :: _ :: _ => true
  | _ => false

/-- An option with the value that is attached to it after an equals sign. -/
def splitOption (arg : Text) : Text × Option Text :=
  let s := arg.toList
  let name := Text.ofList (s.takeWhile (· ≠ .char '='))
  match s.dropWhile (· ≠ .char '=') with
  | [] => (name, none)
  | _ :: value => (name, some (Text.ofList value))

/-- What is read from arguments. -/
structure Parsed where
  /-- The options with their values, in order. -/
  options : List (Text × Text) := []
  /-- Whether help is asked for. -/
  help : Bool := false
  /-- The arguments that are no options. -/
  others : List Text := []
  deriving DecidableEq, Inhabited

/-- The option that asks for help; it has no value. -/
def helpOption : Text := "--help"

/-- What arguments say, of which the options among `names` have values; nothing if an option is
unknown, or has no value where it needs one, or has one where it takes none. The first argument that
is no option ends the options, unless they may stand in between. -/
def readOptions (between : Bool) (names : List Text) : List Text → Option Parsed
  | [] => some {}
  | arg :: rest =>
      if arg = "--" then some { others := rest }
      else if isOption arg then
        match splitOption arg, rest with
        | (name, some value), rest =>
            if name ∈ names then (readOptions between names rest).map fun parsed =>
              { parsed with options := (name, value) :: parsed.options }
            else none
        | (name, none), rest =>
            if name = helpOption then (readOptions between names rest).map fun parsed =>
              { parsed with help := true }
            else if name ∈ names then
              match rest with
              | [] => none
              | value :: rest => (readOptions between names rest).map fun parsed =>
                  { parsed with options := (name, value) :: parsed.options }
            else none
      else if between then (readOptions between names rest).map fun parsed =>
        { parsed with others := arg :: parsed.others }
      else some { others := arg :: rest }

/-- The last value of an option. -/
def Parsed.value? (parsed : Parsed) (name : Text) : Option Text :=
  List.lookup name parsed.options.reverse

/-! ## Calls -/

/-- The actions. -/
inductive Action where
  | compile
  | run
  deriving DecidableEq, Inhabited

namespace Action

/-- The name of an action. -/
def name : Action → Text
  | compile => "compile"
  | run => "run"

/-- All actions. -/
def all : List Action := [compile, run]

/-- The action of a name. -/
def ofName? (name : Text) : Option Action := all.find? (·.name == name)

/-- The options of an action. -/
def options : Action → List Text
  | compile => ["--data"]
  | run => ["--data", "--query"]

end Action

/-- What the arguments of the program say. -/
def Parsed.ofArguments? (args : List Text) : Option Parsed := readOptions false ["--config"] args

/-- What the arguments of an action say. -/
def Parsed.ofAction? (action : Action) (args : List Text) : Option Parsed :=
  readOptions true action.options args

/-- The action that the arguments of the program name, and the arguments of the action. -/
def Parsed.action? (parsed : Parsed) : Option (Action × List Text) :=
  match parsed.others with
  | [] => none
  | name :: rest => (Action.ofName? name).map fun action => (action, rest)

/-- What an action is asked to do. -/
structure Request where
  action : Action
  /-- The path of the document, in place of the one in the settings. -/
  data : Option Text := none
  /-- The query text, in place of the specification in the settings. -/
  query : Option Text := none
  deriving DecidableEq

/-- The request that the arguments of an action make. -/
def Request.ofParsed (action : Action) (parsed : Parsed) : Request where
  action := action
  data := parsed.value? "--data"
  query := parsed.value? "--query"

end Winnow.Command
