import Winnow.Config.Merge
import Winnow.Config.SpecSetting
import Winnow.Language

/-!
# Settings

The settings of the program and how they are read from a configuration tree. All sections are read
before any value is checked against what is allowed.

* `Level`, `Format` — the levels of the console log and the formats of the output.
* `Settings` — the settings, in three sections.
* `Draft` — settings that have been read and not yet checked.
* `Settings.ofMapping` — reading and checking.

Section 5.2 of the DocQuery specification: `parse_config_dict`, `RuntimeConfig`, `QueryConfig`,
`OutputConfig`.
-/

namespace Winnow

/-- The least level of records that the console shows. -/
inductive Level where
  | debug
  | info
  | warning
  | error
  | critical
  deriving DecidableEq, Inhabited

namespace Level

/-- The name of a level. -/
def name : Level → Text
  | debug => "DEBUG"
  | info => "INFO"
  | warning => "WARNING"
  | error => "ERROR"
  | critical => "CRITICAL"

/-- All levels, by name. -/
def all : List Level := [critical, debug, error, info, warning]

/-- The level of a name. -/
def ofName? (name : Text) : Option Level := all.find? (·.name == name)

end Level

/-- A format of the output. -/
inductive Format where
  | console
  | json
  deriving DecidableEq, Inhabited

namespace Format

/-- The name of a format. -/
def name : Format → Text
  | console => "console"
  | json => "json"

/-- All formats. -/
def all : List Format := [console, json]

/-- The format of a name. -/
def ofName? (name : Text) : Option Format := all.find? (·.name == name)

end Format

/-- What is logged, and where to. -/
structure LogSettings where
  level : Level := .info
  toFile : Bool := false
  dir : Text := "log"
  deriving DecidableEq

/-- The language, the document and the query. -/
structure QuerySettings where
  language : Text
  dataPath : Option Text
  spec : Spec
  deriving DecidableEq

/-- Where and how results are written. -/
structure OutputSettings where
  baseDir : Text := "output"
  formats : List Format := [.console]
  indent : Nat := 2
  deriving DecidableEq

/-- The settings of the program. -/
structure Settings where
  log : LogSettings
  query : QuerySettings
  output : OutputSettings
  deriving DecidableEq

namespace Config

/-! ## Reading -/

/-- Settings that have been read and not yet checked. -/
structure Draft where
  level : Text
  toFile : Bool
  logDir : Text
  language : Text
  dataPath : Option Text
  spec : Spec
  baseDir : Text
  formats : List Text
  indent : Int

/-- A text that may be missing or null. -/
def optionalText (key : Text) : Option Tree → Read (Option Text)
  | none => .ok none
  | some .null => .ok none
  | some value => some <$> asText key value

/-- Reads all sections: the log, the query, the output. -/
def Draft.ofMapping (root : Mapping) : Read Draft := do
  let log ← optionalSection root "log"
  let level ← entryOr asText log "level" "log.level" "INFO"
  let toFile ← entryOr asBool log "to_file" "log.to_file" false
  let logDir ← entryOr asText log "dir" "log.dir" "log"
  let query ← requiredSection root "query"
  let language ← entryOr asText query "language" "query.language" "jmespath"
  let dataPath ← optionalText "query.data" (Mapping.get? query "data")
  let spec ← readSpec "query.spec" (Mapping.get? query "spec")
  let output ← optionalSection root "output"
  let baseDir ← entryOr asText output "base_dir" "output.base_dir" "output"
  let formats ← entryOr asTexts output "formats" "output.formats" ["console"]
  let indent ← entryOr asInt output "indent" "output.indent" 2
  return {
    level := Text.upper level
    toFile := toFile
    logDir := logDir
    language := Text.lower (Text.trim language)
    dataPath := dataPath
    spec := spec
    baseDir := baseDir
    formats := formats.map fun name => Text.lower (Text.trim name)
    indent := indent }

/-! ## Checking -/

/-- The log settings of a draft. -/
def Draft.checkLog (d : Draft) : Read LogSettings :=
  match Level.ofName? d.level with
  | none => .error (.notOneOf "log.level" (Level.all.map Level.name))
  | some level =>
      if Text.isAllBlank d.logDir then .error (.blank "log.dir")
      else .ok { level := level, toFile := d.toFile, dir := d.logDir }

/-- The query settings of a draft. -/
def Draft.checkQuery (d : Draft) : Read QuerySettings :=
  if d.language ∉ Language.ids then .error (.unknownLanguage d.language)
  else if (d.dataPath.map Text.isAllBlank).getD false then .error (.blank "query.data")
  else .ok { language := d.language, dataPath := d.dataPath, spec := d.spec }

/-- The output settings of a draft. -/
def Draft.checkOutput (d : Draft) : Read OutputSettings :=
  if Text.isAllBlank d.baseDir then .error (.blank "output.base_dir")
  else if d.formats.isEmpty then .error .noFormats
  else
    let unknown := d.formats.filter fun name => (Format.ofName? name).isNone
    if !unknown.isEmpty then .error (.unknownFormats (Text.sortedSet unknown))
    else if d.indent < 0 then .error .negativeIndent
    else .ok {
      baseDir := d.baseDir
      formats := d.formats.filterMap Format.ofName?
      indent := d.indent.toNat }

end Config

open Config in
/-- The settings of a configuration. -/
def Settings.ofMapping (root : Mapping) : Read Settings := do
  let draft ← Draft.ofMapping root
  let log ← draft.checkLog
  let query ← draft.checkQuery
  let output ← draft.checkOutput
  return { log := log, query := query, output := output }

end Winnow
