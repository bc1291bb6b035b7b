import Winnow.Number.Text
import Winnow.Text.Encoding
import Winnow.Yaml.Block
import Winnow.Yaml.Flow

/-!
# Tokens of YAML

A text falls into scalars and the marks of its structure. Blocks have no marks of their own: their
beginnings and ends follow from the columns, and a mapping's key is known as one only when the
colon after it is met, so its mark is put in before it then.

* `Tag` — what is told of the kind of a node.
* `Token` — scalars and marks.
* `State` — a place in the text, the tokens so far, the open blocks, and the keys that may be.
* `step` — the next token, with the marks that go with it.
* `tokens` — all tokens of a text, up to the place where it turns out not to be YAML.
-/

namespace Winnow.Yaml

/-- What is told of the kind of a node. -/
inductive Tag where
  /-- The kind is what it looks like, even between quotes. -/
  | byForm
  | null
  | bool
  | int
  | float
  | text
  | sequence
  | mapping
  deriving DecidableEq, Inhabited

/-- The tags by their full names. -/
def Tag.names : List (Text × Tag) := [
  ("!", byForm), ("tag:yaml.org,2002:null", null), ("tag:yaml.org,2002:bool", bool),
  ("tag:yaml.org,2002:int", int), ("tag:yaml.org,2002:float", float),
  ("tag:yaml.org,2002:str", text), ("tag:yaml.org,2002:seq", sequence),
  ("tag:yaml.org,2002:map", mapping)]

/-- A scalar or a mark of the structure. -/
inductive Token where
  /-- A directive; `isVersion` tells the version of the language from all others. -/
  | directive (isVersion : Bool)
  | documentStart
  | documentEnd
  | streamEnd
  | sequenceStart
  | mappingStart
  | blockEnd
  | flowSequenceStart
  | flowSequenceEnd
  | flowMappingStart
  | flowMappingEnd
  | entry
  | comma
  | key
  | value
  /-- A name for the node that follows. -/
  | anchor (name : Text)
  /-- The node that has a name. -/
  | reference (name : Text)
  | tag (tag : Tag)
  /-- A scalar without quotes, whose kind its text decides. -/
  | plain (text : Text)
  /-- A scalar that is a text whatever it looks like. -/
  | text (text : Text)
  /-- The text does not go on as YAML. -/
  | failure (cause : ScanError)
  deriving DecidableEq, Inhabited

/-- A token that may turn out to be a key, or to start one. -/
structure PossibleKey where
  /-- The number of tokens before it. -/
  token : Nat
  /-- Whether it has to be one, since it stands where a block's keys stand. -/
  required : Bool
  index : Nat
  line : Nat
  column : Nat

/-- The state of the reading of tokens. -/
structure State where
  cursor : Cursor
  /-- The tokens so far, the last first. -/
  tokens : List Token := []
  /-- The number of tokens so far. -/
  count : Nat := 0
  /-- The possible key at every level of brackets, the innermost first, the block level last. -/
  keys : List (Option PossibleKey) := [none]
  /-- The column of the innermost block; there is none at first. -/
  indent : Int := -1
  /-- The columns of the blocks around it. -/
  indents : List Int := []
  /-- Whether a key may start here. -/
  keyAllowed : Bool := true

/-- Whether a character may stand in a name. -/
def isNameCharacter (c : CodePoint) : Bool := c.isAlphanum || c = '-' || c = '_'

namespace State

/-- Whether the place is inside brackets. -/
def inFlow (s : State) : Bool := s.keys.length ≠ 1

/-- Adds a token. -/
def push (s : State) (t : Token) : State :=
  { s with tokens := t :: s.tokens, count := s.count + 1 }

/-- Puts a mark in after the first `place` tokens. -/
def insert (s : State) (place : Nat) (mark : Token) : State :=
  { s with tokens := s.tokens.insertIdx (s.count - place) mark, count := s.count + 1 }

/-- Goes on in the text. -/
def goto (s : State) (c : Cursor) : State := { s with cursor := c }

/-! ## Possible keys -/

/-- The possible key at the innermost level. -/
def possibleKey (s : State) : Option PossibleKey := s.keys.head?.join

/-- Replaces the possible key at the innermost level. -/
def setKey (s : State) (key : Option PossibleKey) : State := { s with keys := key :: s.keys.tail }

/-- A key that stands on an earlier line, or too far back, is none. -/
def isStale (c : Cursor) (key : PossibleKey) : Bool :=
  key.line ≠ c.line || 1024 < c.index - key.index

/-- Drops the possible keys that can no longer be keys. -/
def dropStale (s : State) : Scan State :=
  let stale := s.keys.filter fun key => (key.map (isStale s.cursor)).getD false
  if stale.any fun key => (key.map PossibleKey.required).getD false then malformed
  else return { s with keys := s.keys.map fun key => key.filter fun k => !isStale s.cursor k }

/-- Drops the possible key at the innermost level, which must not be a required one. -/
def dropKey (s : State) : Scan State :=
  if (s.possibleKey.map PossibleKey.required).getD false then malformed else return s.setKey none

/-- Notes that the next token may be a key. -/
def noteKey (s : State) : Scan State :=
  if s.keyAllowed then do
    let s ← s.dropKey
    return s.setKey (some {
      token := s.count
      required := !s.inFlow && s.indent == s.cursor.column
      index := s.cursor.index
      line := s.cursor.line
      column := s.cursor.column })
  else return s

/-! ## Blocks -/

/-- Ends the blocks that are indented by more than a column. -/
def closeBlocks (column : Int) : List Int → State → State
  | outer :: others, s =>
      if column < s.indent then
        closeBlocks column others { s.push .blockEnd with indent := outer, indents := others }
      else s
  | [], s => s

/-- Ends the blocks that a column ends; inside brackets columns do not count. -/
def unwind (s : State) (column : Int) : State :=
  if s.inFlow then s else closeBlocks column s.indents s

/-- Opens a block at a column unless one is open there; `at` is the place of its mark among the
tokens. -/
def openBlock (s : State) (column : Int) (mark : Token) (place : Nat) : State :=
  if s.indent < column then
    { s.insert place mark with indents := s.indent :: s.indents, indent := column }
  else s

/-! ## Marks -/

/-- The place of the next token. -/
def skipBlank : Nat → State → State
  | 0, s => s
  | bound + 1, s =>
      let c := s.cursor.skipComment
      if isBreak c.peek then
        skipBlank bound { s with cursor := c.lineBreak.2, keyAllowed := s.keyAllowed || !s.inFlow }
      else s.goto c

/-- Ends all blocks. -/
def closeAll (s : State) : Scan State := do
  let s ← (s.unwind (-1)).dropKey
  return { s with keyAllowed := false }

/-- The end of the text. -/
def streamEnd (s : State) : Scan State := do
  return (← s.closeAll).push .streamEnd

/-- A part of a version number. -/
def versionPart (c : Cursor) : Scan (Nat × Cursor) :=
  let (digits, after) := c.takeWhile CodePoint.isDigit
  if digits.isEmpty then malformed else return (digitsValue digits, after)

/-- What follows the name of a directive. Only versions from 1.0 to below 2.0 are known. -/
def directiveValue (name : List CodePoint) (c : Cursor) : Scan Cursor :=
  if name = (Text.toList "YAML") then do
    let (major, c) ← versionPart (c.skipWhile (· = ' '))
    if major ≠ 1 || c.peek ≠ '.' then malformed
    let (_, c) ← versionPart c.next
    if c.peek = ' ' || isLineEnd c.peek then return c else malformed
  else if name = (Text.toList "TAG") then malformed
  else return c.skipWhile (!isLineEnd ·)

/-- A directive: a name and its value, alone on a line. -/
def directive (s : State) : Scan State := do
  let s ← s.closeAll
  let (name, c) := s.cursor.next.takeWhile isNameCharacter
  if name.isEmpty || !(c.peek = ' ' || isLineEnd c.peek) then malformed
  let c ← directiveValue name c
  let c := c.skipComment
  if isLineEnd c.peek then
    return (s.push (.directive (name = (Text.toList "YAML")))).goto c.lineBreak.2
  else malformed

/-- The start or end of a document. -/
def documentMark (s : State) (mark : Token) : Scan State := do
  let s ← s.closeAll
  return (s.push mark).goto (s.cursor.skip 3)

/-- An opening bracket. -/
def flowStart (s : State) (mark : Token) : Scan State := do
  let s ← s.noteKey
  return { s.push mark with
    cursor := s.cursor.next, keys := none :: s.keys, keyAllowed := true }

/-- A closing bracket. -/
def flowEnd (s : State) (mark : Token) : Scan State :=
  if s.inFlow then do
    let s ← s.dropKey
    return { s.push mark with
      cursor := s.cursor.next, keys := s.keys.tail, keyAllowed := false }
  else malformed

/-- A comma between brackets. -/
def comma (s : State) : Scan State := do
  let s ← s.dropKey
  return { s.push .comma with cursor := s.cursor.next, keyAllowed := true }

/-- The dash of a sequence. -/
def entry (s : State) : Scan State := do
  if !s.inFlow && !s.keyAllowed then malformed
  let s := if s.inFlow then s else s.openBlock s.cursor.column .sequenceStart s.count
  let s ← s.dropKey
  return { s.push .entry with cursor := s.cursor.next, keyAllowed := true }

/-- The question mark of a key. -/
def key (s : State) : Scan State := do
  if !s.inFlow && !s.keyAllowed then malformed
  let s := if s.inFlow then s else s.openBlock s.cursor.column .mappingStart s.count
  let s ← s.dropKey
  return { s.push .key with cursor := s.cursor.next, keyAllowed := !s.inFlow }

/-- The colon of a value. It makes the possible key before it a key. -/
def value (s : State) : Scan State := do
  match s.possibleKey with
  | some k =>
      let s := s.setKey none
      let s := s.insert k.token .key
      let s := if s.inFlow then s else s.openBlock k.column .mappingStart k.token
      return { s.push .value with cursor := s.cursor.next, keyAllowed := false }
  | none =>
      if !s.inFlow && !s.keyAllowed then malformed
      let s := if s.inFlow then s else s.openBlock s.cursor.column .mappingStart s.count
      let s ← s.dropKey
      return { s.push .value with cursor := s.cursor.next, keyAllowed := !s.inFlow }

/-! ## Properties of nodes -/

/-- Adds a token that may start a key. -/
def property (s : State) (t : Token) (c : Cursor) : State :=
  { s.push t with cursor := c, keyAllowed := false }

/-- The name of a node after its mark; `token` says what it is there for. -/
def name (s : State) (token : Text → Token) : Scan State := do
  let s ← s.noteKey
  let (name, c) := s.cursor.next.takeWhile isNameCharacter
  let ends := isWordEnd c.peek || (Text.toList "?:,]\x7d%@\x60").contains c.peek
  if name.isEmpty || !ends then malformed
  return s.property (token (Text.ofList name)) c

/-- Whether a character may stand in the name of a tag. A character by its number is not supported.
-/
def isTagCharacter (c : CodePoint) : Bool :=
  c.isAlphanum || (Text.toList "-;/?:@&=+$,_.!~*'()[]").contains c

/-- The full name of a tag at its mark. Two marks stand for the prefix of the common tags. -/
def tagName (c : Cursor) : Scan (List CodePoint × Cursor) :=
  if c.peek 1 = '<' then
    let (name, c) := (c.skip 2).takeWhile isTagCharacter
    if name.isEmpty || c.peek ≠ '>' then malformed else return (name, c.next)
  else if isWordEnd (c.peek 1) then return (['!'], c.next)
  else if c.peek 1 = '!' then
    let (name, c) := (c.skip 2).takeWhile isTagCharacter
    if name.isEmpty then malformed else return (Text.toList "tag:yaml.org,2002:" ++ name, c)
  else malformed

/-- A tag. -/
def tag (s : State) : Scan State := do
  let s ← s.noteKey
  let (name, c) ← tagName s.cursor
  if !(c.peek = ' ' || isLineEnd c.peek) then malformed
  match Tag.names.lookup (Text.ofList name) with
  | some t => return s.property (.tag t) c
  | none => malformed

/-! ## Scalars -/

/-- A block scalar. -/
def block (s : State) : Scan State := do
  let s ← s.dropKey
  let (body, c) ← blockScalar s.indent s.cursor
  return { s.push (.text body) with cursor := c, keyAllowed := true }

/-- A quoted scalar. -/
def quoted (s : State) : Scan State := do
  let s ← s.noteKey
  let (body, c) ← quotedScalar s.cursor
  return { s.push (.text body) with cursor := c, keyAllowed := false }

/-- A plain scalar. -/
def plain (s : State) : Scan State := do
  let s ← s.noteKey
  let scalar := plainScalar s.inFlow (s.indent + 1) s.cursor
  return { s.push (.plain (Text.ofList scalar.text)) with
    cursor := scalar.after, keyAllowed := scalar.broken }

/-- Whether a plain scalar may start at a place. -/
def startsPlain (inFlow : Bool) (c : Cursor) : Bool :=
  let x := c.peek
  if x = '-' then !isWordEnd (c.peek 1)
  else if x = '?' || x = ':' then !inFlow && !isWordEnd (c.peek 1)
  else !isWordEnd x && !((Text.toList ",[]\x7b\x7d#&*!|>'\"%@\x60").contains x)

/-! ## Steps -/

/-- The next token, with what goes with it; whether the text is at its end. -/
def step (s : State) : Scan (Bool × State) := do
  let s ← (s.skipBlank (s.cursor.left + 1)).dropStale
  let s := s.unwind s.cursor.column
  let c := s.cursor
  let x := c.peek
  if x = endMark then return (true, ← s.streamEnd)
  let s ←
    if x = '%' && c.column = 0 then s.directive
    else if c.column = 0 && c.isMarkLine '-' then s.documentMark .documentStart
    else if c.column = 0 && c.isMarkLine '.' then s.documentMark .documentEnd
    else if x = '[' then s.flowStart .flowSequenceStart
    else if x = '\x7b' then s.flowStart .flowMappingStart
    else if x = ']' then s.flowEnd .flowSequenceEnd
    else if x = '\x7d' then s.flowEnd .flowMappingEnd
    else if x = ',' then s.comma
    else if x = '-' && isWordEnd (c.peek 1) then s.entry
    else if x = '?' && (s.inFlow || isWordEnd (c.peek 1)) then s.key
    else if x = ':' && (s.inFlow || isWordEnd (c.peek 1)) then s.value
    else if x = '*' then s.name .reference
    else if x = '&' then s.name .anchor
    else if x = '!' then s.tag
    else if (x = '|' || x = '>') && !s.inFlow then s.block
    else if x = '\'' || x = '"' then s.quoted
    else if startsPlain s.inFlow c then s.plain
    else malformed
  return (false, s)

/-- The number of tokens of which it is settled that no mark will be put in before them: all of
them, or those before the first possible key. -/
def settled (s : State) : Nat :=
  let possible := (s.keys.filterMap id).filter fun key => !isStale s.cursor key
  possible.foldl (fun least key => min least key.token) s.count

/-- All tokens from a state on. Where the text does not go on as YAML, the settled tokens have been
handed on before that was found. Where more brackets are open than there are levels, no more tokens
are wanted. -/
def run (levels : Nat) : Nat → State → List Token
  | 0, s => s.tokens.reverse ++ [.failure .malformed]
  | bound + 1, s =>
      if levels + 1 < s.keys.length then s.tokens.reverse ++ [.failure .tooDeep]
      else match s.step with
      | .error cause => s.tokens.reverse.take s.settled ++ [.failure cause]
      | .ok (true, s) => s.tokens.reverse
      | .ok (false, s) => run levels bound s

end State

/-- Whether a character may stand in a text at all. -/
def isAllowed (c : CodePoint) : Bool :=
  let n := c.toNat
  n == 0x09 || n == 0x0A || n == 0x0D || (0x20 ≤ n && n ≤ 0x7E) || n == 0x85 ||
    (0xA0 ≤ n && n ≤ 0xFFFD && !c.isHalf) || 0x10000 ≤ n

/-- The tokens of a text whose nodes have no more than so many levels; a byte order mark before it
does not count. -/
def tokens (levels : Nat) (text : List CodePoint) : List Token :=
  if text.all isAllowed then
    let start := Cursor.start text
    let start := if start.peek = '\uFEFF' then start.next else start
    State.run levels (start.left + 2) { cursor := start }
  else [.failure .malformed]

end Winnow.Yaml
