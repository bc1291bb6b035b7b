import Winnow.Yaml.Scalar
import Winnow.Yaml.Token

/-!
# Nodes of YAML

* `Node` — scalars, sequences and mappings, before the kinds of plain scalars are told apart.
* `Node.tagged` — a node of which more is told than it shows.
* `Node.names` — the names that stand in a node for others.
* `Node.ofTokens` — the node of the one document that tokens hold, if they hold one.

A node may have a name, and the name may stand for it further on, also inside the node itself.
Nothing stands for a missing value; it counts as an empty plain scalar. A reader that meets the
failure of the text fails with it, and with any other token out of place because of that. A node of
more levels than there are is refused.
-/

namespace Winnow.Yaml

/-- A scalar, a sequence or a mapping. -/
inductive Node where
  /-- A scalar whose kind its text decides. -/
  | plain (text : Text)
  | text (text : Text)
  | sequence (items : List Node)
  | mapping (pairs : List (Node × Node))
  /-- A node with a name. -/
  | named (name : Text) (node : Node)
  /-- The node that has a name. -/
  | reference (name : Text)
  deriving Inhabited

namespace Node

/-- A missing value. -/
def missing : Node := plain ""

/-- The failure at a token that is out of place. -/
def unexpected {α : Type} : List Token → Scan α
  | .failure cause :: _ => .error cause
  | _ => malformed

mutual

/-- How deep a node is: a scalar by one, a collection by one more than its deepest part. -/
def depth : Node → Nat
  | plain _ => 1
  | text _ => 1
  | sequence items => depthItems items + 1
  | mapping pairs => depthPairs pairs + 1
  | named _ node => depth node
  | reference _ => 1

/-- The depth of the deepest of several nodes. -/
def depthItems : List Node → Nat
  | [] => 0
  | node :: rest => max (depth node) (depthItems rest)

/-- The depth of the deepest node of several pairs. -/
def depthPairs : List (Node × Node) → Nat
  | [] => 0
  | (key, value) :: rest => max (max (depth key) (depth value)) (depthPairs rest)

end

mutual

/-- Whether a name stands for a node somewhere in a node. -/
def mentions (name : Text) : Node → Bool
  | plain _ => false
  | text _ => false
  | sequence items => mentionsItems name items
  | mapping pairs => mentionsPairs name pairs
  | named _ node => mentions name node
  | reference other => other == name

/-- Whether a name stands for a node somewhere in several nodes. -/
def mentionsItems (name : Text) : List Node → Bool
  | [] => false
  | node :: rest => mentions name node || mentionsItems name rest

/-- Whether a name stands for a node somewhere in several pairs. -/
def mentionsPairs (name : Text) : List (Node × Node) → Bool
  | [] => false
  | (key, value) :: rest => mentions name key || mentions name value || mentionsPairs name rest

end

/-! ## Tags -/

/-- A scalar by its form if that is what a tag says; the form of others is not changed. -/
def ofForm (s : Text) (fits : Plain → Bool) : Scan Node :=
  match Plain.ofText s with
  | .ok meaning => if fits meaning then return plain s else malformed
  | .error _ => malformed

/-- The characters of a scalar. -/
def scalar? : Node → Option Text
  | plain s => some s
  | text s => some s
  | _ => none

/-- A scalar of which a tag is told. -/
def taggedScalar (s : Text) : Tag → Scan Node
  | .byForm => return plain s
  | .null => return missing
  | .bool => ofForm s (· matches .bool _)
  | .int => ofForm s (· matches .number (.int _))
  | .float => ofForm s (· matches .number (.float _))
  | .text => return text s
  | _ => malformed

/-- A node of which a tag is told. -/
def tagged (node : Node) (tag : Tag) : Scan Node :=
  match node.scalar?, node, tag with
  | some s, _, _ => taggedScalar s tag
  | none, _, .byForm => return node
  | none, sequence _, .sequence => return node
  | none, mapping _, .mapping => return node
  | _, _, _ => malformed

/-- What is told of a node before it. -/
structure Properties where
  name : Option Text := none
  tag : Option Tag := none
  deriving DecidableEq, Inhabited

/-- The properties at the head of a list of tokens, a name and a tag in either order. -/
def properties : List Token → Properties × List Token
  | .anchor name :: .tag tag :: rest => (⟨name, tag⟩, rest)
  | .tag tag :: .anchor name :: rest => (⟨name, tag⟩, rest)
  | .anchor name :: rest => (⟨name, none⟩, rest)
  | .tag tag :: rest => (⟨none, tag⟩, rest)
  | tokens => ({}, tokens)

/-- A node with its properties. -/
def withProperties (node : Node) (p : Properties) : Scan Node := do
  let node ← match p.tag with
    | some tag => node.tagged tag
    | none => pure node
  match p.name with
  | some name => return named name node
  | none => return node

/-! ## Collections

Each of these takes readers of the parts, and reads at most as many parts as its number says; as
many as there are tokens are enough. -/

/-- A reader of the node at the head of a list of tokens. Blocks may start where the first argument
holds, and a sequence on the level of its mapping where the second holds. -/
abbrev Reader := Bool → Bool → List Token → Scan (Node × List Token)

/-- The items of a block sequence. -/
def readItems (read : Reader) : Nat → List Token → Scan (List Node × List Token)
  | 0, _ => malformed
  | count + 1, tokens =>
      match tokens with
      | .blockEnd :: rest => return ([], rest)
      | .entry :: rest => do
          let (item, rest) ← match rest with
            | .entry :: _ => pure (missing, rest)
            | .blockEnd :: _ => pure (missing, rest)
            | _ => read true false rest
          let (items, rest) ← readItems read count rest
          return (item :: items, rest)
      | _ => unexpected tokens

/-- The items of a sequence on the level of its mapping. -/
def readIndentless (read : Reader) : Nat → List Token → Scan (List Node × List Token)
  | 0, _ => malformed
  | count + 1, tokens =>
      match tokens with
      | .entry :: rest => do
          let (item, rest) ← match rest with
            | .entry :: _ => pure (missing, rest)
            | .key :: _ => pure (missing, rest)
            | .value :: _ => pure (missing, rest)
            | .blockEnd :: _ => pure (missing, rest)
            | _ => read true false rest
          let (items, rest) ← readIndentless read count rest
          return (item :: items, rest)
      | _ => return ([], tokens)

/-- A key or a value of a block mapping, which may be missing. -/
def readPart (read : Reader) (tokens : List Token) : Scan (Node × List Token) :=
  match tokens with
  | .key :: _ => return (missing, tokens)
  | .value :: _ => return (missing, tokens)
  | .blockEnd :: _ => return (missing, tokens)
  | _ => read true true tokens

/-- The pairs of a block mapping. -/
def readPairs (read : Reader) : Nat → List Token → Scan (List (Node × Node) × List Token)
  | 0, _ => malformed
  | count + 1, tokens =>
      match tokens with
      | .blockEnd :: rest => return ([], rest)
      | .key :: rest => do
          let (key, rest) ← readPart read rest
          let (value, rest) ← match rest with
            | .value :: rest => readPart read rest
            | _ => pure (missing, rest)
          let (pairs, rest) ← readPairs read count rest
          return ((key, value) :: pairs, rest)
      | _ => unexpected tokens

/-- What follows the comma before a part of a collection between brackets; the first part has none.
-/
def skipComma (first : Bool) (tokens : List Token) : Scan (List Token) :=
  if first then return tokens
  else match tokens with
    | .comma :: rest => return rest
    | _ => unexpected tokens

/-- A key and its value between brackets that `close` closes, after the mark of the key; either may
be missing. -/
def readFlowPair (read : Reader) (close : Token) (tokens : List Token) :
    Scan ((Node × Node) × List Token) := do
  let ends (token : Token) : Bool := token == .comma || token == close
  let (key, rest) ← match tokens with
    | [] => read false false []
    | token :: rest =>
        if token == .value || ends token then pure (missing, token :: rest)
        else read false false (token :: rest)
  let (value, rest) ← match rest with
    | .value :: token :: rest =>
        if ends token then pure (missing, token :: rest) else read false false (token :: rest)
    | .value :: [] => read false false []
    | _ => pure (missing, rest)
  return ((key, value), rest)

/-- The items of a sequence between brackets; a pair without braces is a mapping of its own, whose
parts `readInner` reads. -/
def readFlowItems (read readInner : Reader) (first : Bool) :
    Nat → List Token → Scan (List Node × List Token)
  | 0, _ => malformed
  | count + 1, tokens =>
      match tokens with
      | .flowSequenceEnd :: rest => return ([], rest)
      | _ => do
          match ← skipComma first tokens with
          | .flowSequenceEnd :: rest => return ([], rest)
          | .key :: rest =>
              let (pair, rest) ← readFlowPair readInner .flowSequenceEnd rest
              let (items, rest) ← readFlowItems read readInner false count rest
              return (.mapping [pair] :: items, rest)
          | rest =>
              let (item, rest) ← read false false rest
              let (items, rest) ← readFlowItems read readInner false count rest
              return (item :: items, rest)

/-- The pairs of a mapping between braces; a node without a colon is a key without a value. -/
def readFlowPairs (read : Reader) (first : Bool) :
    Nat → List Token → Scan (List (Node × Node) × List Token)
  | 0, _ => malformed
  | count + 1, tokens =>
      match tokens with
      | .flowMappingEnd :: rest => return ([], rest)
      | _ => do
          match ← skipComma first tokens with
          | .flowMappingEnd :: rest => return ([], rest)
          | .key :: rest =>
              let (pair, rest) ← readFlowPair read .flowMappingEnd rest
              let (pairs, rest) ← readFlowPairs read false count rest
              return (pair :: pairs, rest)
          | rest =>
              let (key, rest) ← read false false rest
              let (pairs, rest) ← readFlowPairs read false count rest
              return ((key, missing) :: pairs, rest)

/-! ## Nodes -/

/-- A node without properties, whose parts `read` reads, and whose parts of parts `readInner`. It
may be missing if `optional` says so. -/
def readBare (optional : Bool) (count : Nat) (read readInner : Reader) : Reader :=
    fun block indentless tokens =>
  let absent := if optional then return (missing, tokens) else unexpected tokens
  match tokens with
  | .failure cause :: _ => .error cause
  | .plain s :: rest => return (.plain s, rest)
  | .text s :: rest => return (.text s, rest)
  | .flowSequenceStart :: rest => do
      let (items, rest) ← readFlowItems read readInner true count rest
      return (.sequence items, rest)
  | .flowMappingStart :: rest => do
      let (pairs, rest) ← readFlowPairs read true count rest
      return (.mapping pairs, rest)
  | .entry :: _ =>
      if indentless then do
        let (items, rest) ← readIndentless read count tokens
        return (.sequence items, rest)
      else absent
  | .sequenceStart :: rest =>
      if block then do
        let (items, rest) ← readItems read count rest
        return (.sequence items, rest)
      else absent
  | .mappingStart :: rest =>
      if block then do
        let (pairs, rest) ← readPairs read count rest
        return (.mapping pairs, rest)
      else absent
  | _ => absent

/-- A node whose parts `read` reads, and whose parts of parts `readInner`. A node with properties
may be missing. -/
def readNode (count : Nat) (read readInner : Reader) : Reader := fun block indentless tokens =>
  match tokens with
  | .reference name :: rest => return (.reference name, rest)
  | _ => do
      let (p, tokens) := properties tokens
      let (node, rest) ← readBare (p ≠ {}) count read readInner block indentless tokens
      return (← node.withProperties p, rest)

/-- Where there is no room for a node. -/
def noRoom : Reader := fun _ _ _ => .error .tooDeep

/-- The node at the head of a list of tokens, of at most as many levels as the second argument
says; `count` bounds the parts of a collection. -/
def read (count : Nat) : Nat → Reader
  | 0 => noRoom
  | 1 => readNode count noRoom noRoom
  | room + 2 => readNode count (read count (room + 1)) (read count room)

/-! ## Names -/

mutual

/-- The names after a node, given those before it. No name is given twice, and none stands for a
node before it is given. -/
def names (known : List Text) : Node → Scan (List Text)
  | plain _ => return known
  | text _ => return known
  | sequence items => namesItems known items
  | mapping pairs => namesPairs known pairs
  | named name node => if name ∈ known then malformed else names (name :: known) node
  | reference name => if name ∈ known then return known else malformed

/-- The names after several nodes. -/
def namesItems (known : List Text) : List Node → Scan (List Text)
  | [] => return known
  | node :: rest => do namesItems (← names known node) rest

/-- The names after several pairs. -/
def namesPairs (known : List Text) : List (Node × Node) → Scan (List Text)
  | [] => return known
  | (key, value) :: rest => do namesPairs (← names (← names known key) value) rest

end

/-! ## Documents -/

/-- What follows directives and the start of a document. The version may be told once. -/
def skipDirectives (versionTold : Bool) : List Token → Scan (List Token)
  | .directive isVersion :: rest =>
      if versionTold && isVersion then malformed else skipDirectives (versionTold || isVersion) rest
  | .documentStart :: rest => return rest
  | tokens => unexpected tokens

/-- A document after its start, which may be empty. -/
def readContent (read : Reader) (tokens : List Token) : Scan (Node × List Token) :=
  match tokens with
  | .directive _ :: _ => return (missing, tokens)
  | .documentStart :: _ => return (missing, tokens)
  | .documentEnd :: _ => return (missing, tokens)
  | .streamEnd :: _ => return (missing, tokens)
  | _ => read true false tokens

/-- The node of the only document of a stream, of at most so many levels; an empty stream has
none. -/
def ofTokens (levels : Nat) (tokens : List Token) : Scan (Option Node) := do
  let read := read tokens.length levels
  let (node, rest) ← match tokens with
    | .streamEnd :: _ => pure (none, tokens)
    | .directive _ :: _ => do
        let (node, rest) ← readContent read (← skipDirectives false tokens)
        pure (some node, rest)
    | .documentStart :: rest => do
        let (node, rest) ← readContent read rest
        pure (some node, rest)
    | _ => do
        let (node, rest) ← read true false tokens
        pure (some node, rest)
  if let some node := node then
    let _ ← node.names []
  let rest := rest.dropWhile (· == .documentEnd)
  match rest with
  | .streamEnd :: _ => return node
  | _ => unexpected rest

end Node

end Winnow.Yaml
