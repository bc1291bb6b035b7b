import Mathlib
import Winnow.Command.Arguments

/-!
# Arguments that spell a request

Options with their values after them are read as those values, whatever the values are.

* `optionArguments`, `Request.arguments` — the arguments that spell an option and a request.
* `Parsed.ofConfig`, `Request.parsed` — what they say.
* `ofArguments?_arguments` — the options of the program are read back from the arguments.
* `ofAction?_optionArguments`, `ofParsed_parsed` — a request is read back from its options.
-/

namespace Winnow.Command

/-! ## Spelling -/

/-- An option with its value, if there is one. -/
def optionArguments (name : Text) : Option Text → List Text
  | none => []
  | some value => [name, value]

/-- The options that spell a request. -/
def Request.optionArguments (request : Request) : List Text :=
  Command.optionArguments "--data" request.data ++ Command.optionArguments "--query" request.query

/-- The arguments of a request to the program, with the path of the settings if one is given. -/
def Request.arguments (request : Request) (config : Option Text) : List Text :=
  Command.optionArguments "--config" config ++ request.action.name :: request.optionArguments

/-- What is read where an option has a value, if there is one. -/
def readOption (name : Text) (value? : Option Text) : List (Text × Text) :=
  (value?.map fun value => (name, value)).toList

/-- What the arguments of the program say: the path of the settings, if one is given, and the
arguments that are left. -/
def Parsed.ofConfig (config : Option Text) (others : List Text) : Parsed where
  options := readOption "--config" config
  others := others

/-- What the options of a request say. -/
def Request.parsed (request : Request) : Parsed where
  options := readOption "--data" request.data ++ readOption "--query" request.query

/-! ## Reading -/

/-- An option that has a value, of which none is attached. -/
structure IsBareOption (name : Text) : Prop where
  isOption : isOption name = true
  split : splitOption name = (name, none)
  ne_end : name ≠ "--"
  ne_help : name ≠ helpOption

theorem isBareOption_config : IsBareOption "--config" := by constructor <;> decide

theorem isBareOption_data : IsBareOption "--data" := by constructor <;> decide

section

variable {between : Bool} {names : List Text}

/-- What follows an option is its value, whatever it is. -/
theorem readOptions_option {name : Text} (h : IsBareOption name) (hname : name ∈ names)
    (value : Text) (rest : List Text) :
    readOptions between names (name :: value :: rest) =
      (readOptions between names rest).map fun parsed =>
        { parsed with options := (name, value) :: parsed.options } := by
  rw [readOptions.eq_def]
  dsimp only
  rw [if_neg h.ne_end, if_pos h.isOption, h.split]
  dsimp only
  rw [if_neg h.ne_help, if_pos hname]

theorem readOptions_optionArguments {name : Text} (h : IsBareOption name) (hname : name ∈ names)
    (value? : Option Text) (rest : List Text) :
    readOptions between names (optionArguments name value? ++ rest) =
      (readOptions between names rest).map fun parsed =>
        { parsed with options := readOption name value? ++ parsed.options } := by
  cases value? with
  | none => exact (Option.map_id' (x := readOptions between names rest)).symm
  | some value => exact readOptions_option h hname value rest

/-- The options of the program end at an argument that is none. -/
theorem readOptions_of_not_isOption {name : Text} (h : isOption name = false) (hend : name ≠ "--")
    (rest : List Text) :
    readOptions false names (name :: rest) = some { others := name :: rest } := by
  rw [readOptions.eq_def]
  dsimp only
  rw [if_neg hend, h, if_neg Bool.false_ne_true, if_neg Bool.false_ne_true]

end

/-- **The options of the program** are read from the arguments that spell a request. -/
theorem ofArguments?_arguments (request : Request) (config : Option Text) :
    Parsed.ofArguments? (request.arguments config) =
      some (Parsed.ofConfig config (request.action.name :: request.optionArguments)) := by
  have hname : isOption request.action.name = false ∧ request.action.name ≠ "--" := by
    cases request.action <;> decide
  rw [Parsed.ofArguments?, Request.arguments,
    readOptions_optionArguments isBareOption_config List.mem_cons_self,
    readOptions_of_not_isOption hname.1 hname.2, Option.map_some, Parsed.ofConfig, List.append_nil]

theorem ofName?_name (action : Action) : Action.ofName? action.name = some action := by
  cases action <;> rfl

/-- **The options of an action** are read from the arguments that spell them. Only a run takes a
query text. -/
theorem ofAction?_optionArguments {request : Request}
    (h : request.query = none ∨ request.action = .run) :
    Parsed.ofAction? request.action request.optionArguments = some request.parsed := by
  obtain ⟨action, data, query⟩ := request
  have hdata : Text.ofString "--data" ∈ action.options := by cases action <;> decide
  have hquery : readOptions true action.options (optionArguments "--query" query) =
      some { options := readOption "--query" query } := by
    rcases h with rfl | rfl
    · cases action <;> rfl
    · cases query <;> rfl
  rw [Parsed.ofAction?, Request.optionArguments,
    readOptions_optionArguments isBareOption_data hdata, hquery]
  rfl

/-- A request is what its options say. -/
theorem ofParsed_parsed (request : Request) :
    Request.ofParsed request.action request.parsed = request := by
  obtain ⟨action, data, query⟩ := request
  cases data <;> cases query <;> rfl

end Winnow.Command
