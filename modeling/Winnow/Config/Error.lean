import Winnow.Number.Text
import Winnow.Text.Quoted

/-!
# Errors of settings

* `SettingError` — what is wrong with a configuration, with the full dotted key of the entry where
  it is known.
* `SettingError.message` — what is said of it.

Section 5.2 of the DocQuery specification: `TypeError` for wrong types, `ValueError` for what is
missing or not allowed.
-/

namespace Winnow.Config

/-- The kind of value that a setting takes. -/
inductive Wanted where
  | object
  | string
  | boolean
  | integer
  | list
  | scalar
  deriving DecidableEq, Inhabited

/-- A kind of value in words. -/
def Wanted.phrase : Wanted → Text
  | object => "an object"
  | string => "a string"
  | boolean => "a boolean"
  | integer => "an integer"
  | list => "a list"
  | scalar => "a string, number, boolean or null"

/-- What is wrong with a configuration. -/
inductive SettingError where
  /-- The configuration is no mapping. -/
  | noMapping
  /-- A required entry is missing. -/
  | missing (key : Text)
  /-- An entry is of the wrong kind. -/
  | wrongKind (key : Text) (wanted : Wanted)
  /-- A value is not among the allowed ones. -/
  | notOneOf (key : Text) (allowed : List Text)
  /-- A specification has stages of other names. -/
  | unknownStages (key : Text) (names : List Text)
  /-- The name of a stage is an integer of too many digits. -/
  | unnamedStage (cause : TooLong)
  /-- A projection has no paths. -/
  | noPaths (key : Text)
  | unknownLanguage (id : Text)
  /-- A text has only blanks. -/
  | blank (key : Text)
  | noFormats
  | unknownFormats (names : List Text)
  | negativeIndent
  deriving DecidableEq, Inhabited

/-- What is said of an error. -/
def SettingError.message : SettingError → Text
  | noMapping => "Config root must be a mapping/object"
  | missing key => "Missing required config: " ++ key
  | wrongKind key wanted => key ++ " must be " ++ wanted.phrase
  | notOneOf key allowed => key ++ " must be one of " ++ Text.quoteList allowed
  | unknownStages key names => key ++ " has unknown stages: " ++ Text.quoteList names
  | unnamedStage cause => cause.message
  | noPaths key => key ++ ".paths must include at least one path"
  | unknownLanguage id => "query.language has unknown language: " ++ id
  | blank key => key ++ " must not be empty"
  | noFormats => "output.formats must include at least one format"
  | unknownFormats names => "output.formats has unknown formats: " ++ Text.quoteList names
  | negativeIndent => "output.indent must not be negative"

end Winnow.Config
