import Winnow.Text.Hex
import Winnow.Yaml.Cursor

/-!
# Scalars within a line of thought: quoted and plain ones

Both kinds may run over several lines. A single line break counts as a blank, and of several the
first is dropped.

* `quotedScalar` — a scalar between single or double quotes.
* `plainScalar` — a scalar without quotes.

The loops recurse on a bound that each round lowers; the length of what is left is enough.
-/

namespace Winnow.Yaml

/-! ## Quoted scalars -/

/-- The character that a one-letter escape stands for. -/
def escapedChar? (c : CodePoint) : Option CodePoint :=
  match c with
  | '0' => some '\x00'
  | 'a' => some '\x07'
  | 'b' => some '\x08'
  | 't' => some '\t'
  | '\t' => some '\t'
  | 'n' => some '\n'
  | 'v' => some '\x0B'
  | 'f' => some '\x0C'
  | 'r' => some '\r'
  | 'e' => some '\x1B'
  | ' ' => some ' '
  | '"' => some '"'
  | '\\' => some '\\'
  | '/' => some '/'
  | 'N' => some '\x85'
  | '_' => some '\xA0'
  | 'L' => some '\u2028'
  | 'P' => some '\u2029'
  | _ => none

/-- The number of hexadecimal digits after an escape by number. -/
def escapeWidth? (c : CodePoint) : Option Nat :=
  match c with
  | 'x' => some 2
  | 'u' => some 4
  | 'U' => some 8
  | _ => none

/-- The line breaks at a place with the blanks around them. No document may start or end inside a
scalar. -/
def quotedBreaks : Nat → Cursor → Scan (List CodePoint × Cursor)
  | 0, _ => malformed
  | bound + 1, c =>
      if c.isDocumentMark then malformed
      else
        let c := c.skipWhile fun x => x = ' ' || x = '\t'
        if isBreak c.peek then do
          let (mark, c) := c.lineBreak
          let (others, c) ← quotedBreaks bound c
          return (mark ++ others, c)
        else return ([], c)

/-- What blanks and line breaks inside a quoted scalar stand for. -/
def quotedBlanks (bound : Nat) (c : Cursor) : Scan (List CodePoint × Cursor) :=
  let (blanks, c) := c.takeWhile fun x => x = ' ' || x = '\t'
  if c.peek = endMark then malformed
  else if isBreak c.peek then do
    let (mark, c) := c.lineBreak
    let (breaks, c) ← quotedBreaks bound c
    let first := if mark ≠ [.char '\n'] then mark else if breaks.isEmpty then [.char ' '] else []
    return (first ++ breaks, c)
  else return (blanks, c)

/-- What an escape stands for, after its backslash. -/
def escape (bound : Nat) (c : Cursor) : Scan (List CodePoint × Cursor) :=
  match escapedChar? c.peek with
  | some x => return ([x], c.next)
  | none =>
      match escapeWidth? c.peek with
      | some width =>
          let digits := c.next.rest.take width
          match Text.hexNumber? digits with
          | some n =>
              if digits.length < width then malformed
              else if n < 0x110000 then return ([CodePoint.ofNat n], c.next.skip width)
              else .error (.noCharacter n)
          | none => malformed
      | none =>
          if isBreak c.peek then quotedBreaks bound c.lineBreak.2 else malformed

/-- A quoted scalar after its opening quote, up to its closing one. -/
def quotedBody (double : Bool) : Nat → Cursor → Scan (List CodePoint × Cursor)
  | 0, _ => malformed
  | bound + 1, c => do
      let x := c.peek
      let quote := if double then '"' else '\''
      let (part, c) ← show Scan (Option (List CodePoint) × Cursor) from
        if x = quote then
          if !double && c.peek 1 = '\'' then pure (some ['\''], c.skip 2) else pure (none, c.next)
        else if isWordEnd x then do
          let (part, c) ← quotedBlanks (c.left + 1) c
          pure (some part, c)
        else if double && x = '\\' then do
          let (part, c) ← escape (c.left + 1) c.next
          pure (some part, c)
        else pure (some [x], c.next)
      match part with
      | none => return ([], c)
      | some part =>
          let (others, c) ← quotedBody double bound c
          return (part ++ others, c)

/-- The quoted scalar at a place. -/
def quotedScalar (c : Cursor) : Scan (Text × Cursor) := do
  let (body, c) ← quotedBody (c.peek = '"') (c.left + 1) c.next
  return (Text.ofList body, c)

/-! ## Plain scalars -/

/-- Whether a plain scalar may go on with `x` before `y`. A colon ends it before a blank, and inside
brackets before a mark; there a few marks end it themselves. -/
def isPlainChar (inFlow : Bool) (x y : CodePoint) : Bool :=
  !(isWordEnd x
    || (x = ':' &&
      (isWordEnd y || (inFlow && (y = ',' || y = '[' || y = ']' || y = '\x7b' || y = '\x7d'))))
    || (inFlow && (x = ',' || x = '?' || x = '[' || x = ']' || x = '\x7b' || x = '\x7d')))

/-- The word of a plain scalar at the head of a text. -/
def plainWord (inFlow : Bool) : List CodePoint → List CodePoint
  | [] => []
  | x :: rest =>
      if isPlainChar inFlow x (rest.headD endMark) then x :: plainWord inFlow rest else []

/-- The line breaks at a place with the blanks between them; nothing where a document starts or
ends. -/
def plainBreaks : Nat → Cursor → Option (List CodePoint) × Cursor
  | 0, c => (some [], c)
  | bound + 1, c =>
      if c.peek = ' ' then plainBreaks bound c.next
      else if isBreak c.peek then
        let (mark, c) := c.lineBreak
        if c.isDocumentMark then (none, c)
        else
          let (others, c) := plainBreaks bound c
          (others.map (mark ++ ·), c)
      else (some [], c)

/-- What separates two words of a plain scalar. -/
structure PlainGap where
  /-- The text of the gap; nothing if the scalar ends here. -/
  text : List CodePoint
  /-- Whether the gap goes over a line. -/
  broken : Bool
  after : Cursor

/-- The gap after a word. -/
def plainGap (c : Cursor) : PlainGap :=
  let (blanks, c) := c.takeWhile (· = ' ')
  if isBreak c.peek then
    let (mark, c) := c.lineBreak
    if c.isDocumentMark then ⟨[], true, c⟩
    else
      match plainBreaks (c.left + 1) c with
      | (none, c) => ⟨[], true, c⟩
      | (some breaks, c) =>
          let first :=
            if mark ≠ [.char '\n'] then mark else if breaks.isEmpty then [.char ' '] else []
          ⟨first ++ breaks, true, c⟩
  else ⟨blanks, false, c⟩

/-- A plain scalar with what is known about its end. -/
structure PlainScalar where
  text : List CodePoint
  /-- Whether the scalar ends after a line break. -/
  broken : Bool
  after : Cursor

/-- The rest of a plain scalar; `gap` separates it from the words before, and lines that are
indented by less than `indent` do not belong to it. -/
def plainFrom (inFlow : Bool) (indent : Int) : Nat → PlainGap → PlainScalar
  | 0, gap => ⟨[], gap.broken, gap.after⟩
  | bound + 1, gap =>
      let c := gap.after
      let word := if c.peek = '#' then [] else plainWord inFlow c.rest
      if word.isEmpty then ⟨[], gap.broken, c⟩
      else
        let following := plainGap (c.skip word.length)
        let ends := following.text.isEmpty || following.after.peek = '#' ||
          (!inFlow && following.after.column < indent)
        let others :=
          if ends then ⟨[], following.broken, following.after⟩
          else plainFrom inFlow indent bound following
        ⟨gap.text ++ word ++ others.text, others.broken, others.after⟩

/-- The plain scalar at a place. -/
def plainScalar (inFlow : Bool) (indent : Int) (c : Cursor) : PlainScalar :=
  plainFrom inFlow indent (c.left + 1) ⟨[], false, c⟩

end Winnow.Yaml
