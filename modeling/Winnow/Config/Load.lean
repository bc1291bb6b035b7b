import Winnow.Config.Loader
import Winnow.Yaml.Node
import Winnow.Yaml.Scalar

/-!
# Loading configuration texts

A node that has a name may be used again by it, its entries may be taken over into other mappings,
and it may stand in itself. A tree cannot, so a value that contains itself is followed into itself
so many times, which has to be more than anyone goes.

* `Loading` — loading, with the names that have been given.
* `nodeTree` — a node as a value.
* `checkNode` — the first scalar in a node that means nothing.
* `loadTree` — the tree that a YAML text holds; null if it holds none.
* `yamlLoader` — the reader of such texts.

Section 5.2 of the DocQuery specification: YAML. Of the tags only those of scalars, sequences and
mappings are supported, and prefixes for tags are not.
-/

namespace Winnow.Config

open Yaml (LoadError Node Plain)

/-! ## Scalars -/

/-- A plain scalar as a value. -/
def plainTree (s : Text) : Except LoadError Tree := do
  match ← Plain.ofText s with
  | .null => return .null
  | .bool b => return .bool b
  | .number n => return .number n
  | .moment m => return .moment m
  | .equals => throw .malformed
  | .text => return .text s

/-- A plain scalar as a key. -/
def plainKey (s : Text) : Except LoadError Key := do
  match ← Plain.ofText s with
  | .null => return .null
  | .bool b => return .bool b
  | .number n => return .number n
  | .moment m => return .moment m
  | .equals => return .text s
  | .text => return .text s

/-- A key as a value. -/
def Key.tree : Key → Tree
  | null => .null
  | bool b => .bool b
  | number n => .number n
  | text s => .text s
  | moment m => .moment m

/-- A value as a key; collections are none. -/
def Tree.key : Tree → Except LoadError Key
  | null => .ok .null
  | bool b => .ok (.bool b)
  | number n => .ok (.number n)
  | text s => .ok (.text s)
  | moment m => .ok (.moment m)
  | _ => .error .malformed

/-! ## Names -/

/-- What the names that have been given stand for, the last one first. -/
abbrev Known := List (Text × Tree)

/-- Loading, with the names that have been given. -/
abbrev Loading (α : Type) := StateT Known (Except LoadError) α

/-- Gives a name to a value. -/
def remember (name : Text) (tree : Tree) : Loading Unit :=
  modify fun known => (name, tree) :: known

/-- What a name stands for. -/
def standsFor (name : Text) : Loading Tree := do
  match (← get).lookup name with
  | some tree => return tree
  | none => throw .malformed

/-- What `load` loads if, in it, a name stands for what it loads: from `start` on, what was loaded
is put in the place of the name so many times. -/
def follow (name : Text) (load : Loading Tree) (start : Tree) : Nat → Loading Tree
  | 0 => return start
  | turns + 1 => do
      let known ← get
      let tree ← follow name load start turns
      set ((name, tree) :: known)
      load

/-! ## Nodes -/

/-- A node as a key. -/
def nodeKey : Node → Loading Key
  | .plain s => plainKey s
  | .text s => return .text s
  | .named name node => do
      let key ← nodeKey node
      remember name key.tree
      return key
  | .reference name => do (← standsFor name).key
  | _ => throw .malformed

/-- Whether a node is the mark for the entries of other mappings. -/
def isMergeMark : Node → Bool
  | .plain s => s == "<<"
  | _ => false

/-- The entries that are taken over from several mappings, those of the last one first. -/
def takenItems : List Tree → Except LoadError (List (Key × Tree))
  | [] => .ok []
  | .mapping entries :: rest => do return (← takenItems rest) ++ entries
  | _ :: _ => .error .malformed

/-- The entries that are taken over from a value, a mapping or a list of mappings. -/
def takenEntries : Tree → Except LoadError (List (Key × Tree))
  | .mapping entries => .ok entries
  | .list items => takenItems items
  | _ => .error .malformed

/-- What the name of a node stands for in the node itself, if it is followed no further. -/
def startTree : Node → Tree
  | .sequence _ => .list []
  | .mapping _ => .mapping []
  | _ => .null

section

variable (turns : Nat)

mutual

/-- A node as a value. In itself it is followed so many times. -/
def nodeTree : Node → Loading Tree
  | .plain s => plainTree s
  | .text s => return .text s
  | .sequence items => do return .list (← nodeItems items)
  | .mapping pairs => do
      let (taken, own) ← nodePairs pairs
      return .mapping (Mapping.ofPairs (taken ++ own))
  | .named name node => do
      let turns := if node.mentions name then turns else 1
      let tree ← follow name (nodeTree node) (startTree node) turns
      remember name tree
      return tree
  | .reference name => standsFor name

/-- Nodes as the items of a list. -/
def nodeItems : List Node → Loading (List Tree)
  | [] => return []
  | node :: rest => do
      let item ← nodeTree node
      let items ← nodeItems rest
      return item :: items

/-- Pairs of nodes as keys and values: those that are taken over from other mappings, and those of
this one. -/
def nodePairs : List (Node × Node) → Loading (List (Key × Tree) × List (Key × Tree))
  | [] => return ([], [])
  | (key, value) :: rest =>
      if isMergeMark key then do
        let entries ← takenEntries (← nodeTree value)
        let (taken, own) ← nodePairs rest
        return (entries ++ taken, own)
      else do
        let k ← nodeKey key
        let v ← nodeTree value
        let (taken, own) ← nodePairs rest
        return (taken, (k, v) :: own)

end

end

/-! ## Checking

Of several scalars that mean nothing, the one that stands least deep counts, and of those the first:
the scalars of a collection are looked at before the collections in it. -/

/-- A part of a collection, checked if it is a scalar; a collection is left for later. -/
def checkPart : Node → Except LoadError (List Node)
  | .plain s => do
      let _ ← plainTree s
      return []
  | .text _ => return []
  | .named _ node => checkPart node
  | .reference _ => return []
  | node => return [node]

/-- Checks a key. -/
def checkKey : Node → Except LoadError Unit
  | .plain s => do
      let _ ← plainKey s
      return
  | .text _ => return
  | .named _ node => checkKey node
  | .reference _ => return
  | _ => throw .malformed

/-- A pair of a mapping, its key checked, its value left for later if it is a collection. -/
def checkPair (pair : Node × Node) : Except LoadError (List Node) := do
  unless isMergeMark pair.1 do checkKey pair.1
  checkPart pair.2

/-- The collections that are parts of a collection, whose other parts are checked. -/
def checkParts : Node → Except LoadError (List Node)
  | .sequence items => do return (← items.mapM checkPart).flatten
  | .mapping pairs => do return (← pairs.mapM checkPair).flatten
  | _ => return []

/-- Checks collections and all that they hold, level by level; the first argument bounds the number
of levels. -/
def checkLevels : Nat → List Node → Except LoadError Unit
  | 0, _ => return
  | _, [] => return
  | depth + 1, nodes => do
      let inner ← nodes.mapM checkParts
      checkLevels depth inner.flatten

/-- Checks a node and all that it holds. -/
def checkNode (node : Node) : Except LoadError Unit := do
  checkLevels node.depth (← checkPart node)

/-! ## Texts -/

/-- The tree that a YAML text holds, in which `levels` collections may stand in each other, and
which is followed into itself `turns` times. -/
def loadTree (levels turns : Nat) (text : Text) : Except LoadError Tree :=
  match Node.ofTokens levels (Yaml.tokens levels text.toList) with
  | .error cause => .error (.scan cause)
  | .ok none => .ok .null
  | .ok (some node) => do
      checkNode node
      (nodeTree turns node).run' []

/-- The kind of an error, by its name. -/
def kindOf : LoadError → Text
  | .scan .malformed => "YAMLError"
  | .scan .tooDeep => "RecursionError"
  | .scan (.noCharacter n) => if n < Nat.pow 2 31 then "ValueError" else "OverflowError"
  | .tooLarge _ => "OverflowError"
  | _ => "ValueError"

/-- The reader of YAML texts. -/
@[reducible]
def yamlLoader (levels turns : Nat) : Loader where
  load text := (loadTree levels turns text).mapError fun cause => ⟨kindOf cause, cause.message?⟩

end Winnow.Config
