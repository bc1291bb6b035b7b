import Winnow.Config.Loader
import Winnow.Config.Settings
import Winnow.Files.Tree
import Winnow.Limits

/-!
# Layers of settings

Settings come from a default file and from one more file, whose entries are put over the default
ones.

* `Settings.load` — the settings of one file.
* `Settings.loadOver` — the settings of a file over those of the default file.

Section 5.2 of the DocQuery specification: `load_config`, `load_config_with_defaults`.
-/

namespace Winnow

/-- Why there are no settings. -/
inductive ConfigError where
  | file (cause : Files.FileError)
  | load (cause : Config.LoadFailure)
  | setting (cause : Config.SettingError)
  /-- Mappings stand too deep in each other to be merged. -/
  | tooDeep
  deriving DecidableEq

/-- What is said of settings whose mappings stand too deep in each other. -/
def ConfigError.depthMessage : Text := "maximum recursion depth exceeded in comparison"

namespace Config

/-- An error at the root of a configuration text. -/
def RootError.lift : RootError → ConfigError
  | load cause => .load cause
  | setting cause => .setting cause

variable [Loader]

/-- The root of the configuration in a file. -/
def readMapping (files : Files) (path : Files.Path) : Except ConfigError Mapping := do
  let text ← (files.read path).mapError ConfigError.file
  (loadMapping text).mapError RootError.lift

/-- The root of the default configuration; a missing file is empty. -/
def readDefault (files : Files) (path : Files.Path) : Except ConfigError Mapping := do
  if ← (files.isFile path).mapError ConfigError.file then readMapping files path else return []

/-- The path of the default configuration. -/
def defaultPath : Files.Path := Files.Path.ofText "config/default.yml"

end Config

namespace Settings

open Config

variable [Loader]

/-- The settings at a root. -/
def ofRoot (root : Mapping) : Except ConfigError Settings :=
  (ofMapping root).mapError ConfigError.setting

/-- The settings of one file. -/
def load (files : Files) (path : Files.Path) : Except ConfigError Settings := do
  ofRoot (← readMapping files path)

/-- The settings of the file at `path` over those of the file at `default`. -/
def loadOver [Limits] (files : Files) (path default : Files.Path) :
    Except ConfigError Settings := do
  let base ← readDefault files default
  if path = default then ofRoot base
  else
    let override ← readMapping files path
    if mergeFits Limits.mergeLevels base override then ofRoot (merge base override)
    else throw .tooDeep

end Settings

end Winnow
