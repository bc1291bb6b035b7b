import Winnow.Config.Error
import Winnow.Config.Tree

/-!
# The roots of configurations

* `Loader` — the reader of configuration texts, a function of the text.
* `Tree.root` — the root of a configuration. An empty text, and any value that counts as empty, is
  the empty mapping; every other root has to be a mapping.
* `loadMapping` — the root of a configuration text.

Section 5.2 of the DocQuery specification: the root of a configuration.
-/

namespace Winnow.Config

/-- Why a configuration text is not read: the kind of error and, unless it is told by its kind
alone, what is said of it. -/
structure LoadFailure where
  kind : Text
  message : Option Text := none
  deriving DecidableEq, Inhabited

/-- A reader of configuration texts. -/
class Loader where
  /-- The tree that a text holds; null if it holds none. -/
  load : Text → Except LoadFailure Tree

/-- Why a text has no configuration at its root. -/
inductive RootError where
  | load (cause : LoadFailure)
  | setting (cause : SettingError)
  deriving DecidableEq

/-- Whether a value counts as empty. -/
def Tree.isEmpty : Tree → Bool
  | .null => true
  | .bool b => !b
  | .number n => n.eq (.int 0)
  | .text s => s.isEmpty
  | .moment _ => false
  | .list items => items.isEmpty
  | .mapping entries => entries.isEmpty

/-- The mapping at the root of a tree. -/
def Tree.root (tree : Tree) : Except SettingError Mapping :=
  if tree.isEmpty then .ok []
  else match tree with
    | .mapping entries => .ok entries
    | _ => .error .noMapping

/-- The root of a configuration text. -/
def loadMapping [Loader] (text : Text) : Except RootError Mapping := do
  let tree ← (Loader.load text).mapError RootError.load
  tree.root.mapError RootError.setting

end Winnow.Config
