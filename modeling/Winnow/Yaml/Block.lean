import Winnow.Yaml.Cursor

/-!
# Block scalars

Literal scalars keep their lines, folded ones join lines that are indented alike. A header says
which, how far the lines are indented, and what becomes of the line breaks at the end.

* `blockScalar` — the block scalar at a place.
-/

namespace Winnow.Yaml

/-- What becomes of the line breaks at the end of a block scalar. -/
inductive Chomping where
  /-- One is kept. -/
  | clip
  /-- None is kept. -/
  | strip
  /-- All are kept. -/
  | keep
  deriving DecidableEq

/-- The chomping that a mark asks for. -/
def chomping? (x : CodePoint) : Option Chomping :=
  if x = '+' then some .keep else if x = '-' then some .strip else none

/-- The indentation that a digit asks for; zero is none. -/
def indentation? (c : Cursor) : Scan (Option Nat × Cursor) :=
  if c.peek.isDigit then
    if c.peek = '0' then malformed else return (some (c.peek.toNat - 48), c.next)
  else return (none, c)

/-- The marks of a header, in either order. -/
def blockMarks (c : Cursor) : Scan (Chomping × Option Nat × Cursor) := do
  match chomping? c.peek with
  | some chomping =>
      let (indentation, c) ← indentation? c.next
      return (chomping, indentation, c)
  | none =>
      let (indentation, c) ← indentation? c
      match indentation, chomping? c.peek with
      | some _, some chomping => return (chomping, indentation, c.next)
      | _, _ => return (.clip, indentation, c)

/-- The rest of the header's line, which may hold a comment only. -/
def skipHeaderLine (c : Cursor) : Scan Cursor :=
  if c.peek = ' ' || isLineEnd c.peek then
    let c := c.skipComment
    if isLineEnd c.peek then return c.lineBreak.2 else malformed
  else malformed

/-- The line breaks before the first line of text, and the greatest indentation met. -/
def leadingBreaks : Nat → Nat → Cursor → List CodePoint × Nat × Cursor
  | 0, widest, c => ([], widest, c)
  | bound + 1, widest, c =>
      if c.peek = ' ' then leadingBreaks bound (max widest c.next.column) c.next
      else if isBreak c.peek then
        let (mark, c) := c.lineBreak
        let (others, widest, c) := leadingBreaks bound widest c
        (mark ++ others, widest, c)
      else ([], widest, c)

/-- The place after blanks, up to a column. -/
def skipIndentation (indent : Nat) : Nat → Cursor → Cursor
  | 0, c => c
  | bound + 1, c =>
      if c.column < indent && c.peek = ' ' then skipIndentation indent bound c.next else c

/-- The line breaks at a place with the indentation after each. -/
def blockBreaks (indent : Nat) : Nat → Cursor → List CodePoint × Cursor
  | 0, c => ([], c)
  | bound + 1, c =>
      let c := skipIndentation indent indent c
      if isBreak c.peek then
        let (mark, c) := c.lineBreak
        let (others, c) := blockBreaks indent bound c
        (mark ++ others, c)
      else ([], c)

/-- Whether a character is a blank. -/
def isBlankMark (x : CodePoint) : Bool := x = ' ' || x = '\t'

/-- The lines of a block scalar from a place on; `breaks` stand before the first of them. The
result is the text up to the last line, the break after it, and the breaks at the end. -/
def blockLines (folded : Bool) (indent : Nat) :
    Nat → List CodePoint → Cursor → List CodePoint × List CodePoint × List CodePoint × Cursor
  | 0, breaks, c => ([], [], breaks, c)
  | bound + 1, breaks, c =>
      if c.column = indent && c.peek ≠ endMark then
        let startsBlank := isBlankMark c.peek
        let (line, c) := c.takeWhile (!isLineEnd ·)
        let (mark, c) := c.lineBreak
        let (following, c) := blockBreaks indent (c.left + 1) c
        if c.column = indent && c.peek ≠ endMark then
          let joint : List CodePoint :=
            if folded && mark = [.char '\n'] && !startsBlank && !isBlankMark c.peek then
              if following.isEmpty then [' '] else []
            else mark
          let (others, last, tail, c) := blockLines folded indent bound following c
          (breaks ++ line ++ joint ++ others, last, tail, c)
        else (breaks ++ line, mark, following, c)
      else ([], [], breaks, c)

/-- The block scalar at a place inside a block indented by `outer`. -/
def blockScalar (outer : Int) (c : Cursor) : Scan (Text × Cursor) := do
  let folded := c.peek = '>'
  let (chomping, indentation, c) ← blockMarks c.next
  let c ← skipHeaderLine c
  let least : Nat := (max (outer + 1) 1).toNat
  let bound := c.left + 1
  let (breaks, indent, c) :=
    match indentation with
    | none =>
        let (breaks, widest, c) := leadingBreaks bound 0 c
        (breaks, max least widest, c)
    | some n =>
        let indent := least + n - 1
        let (breaks, c) := blockBreaks indent bound c
        (breaks, indent, c)
  let (text, last, tail, c) := blockLines folded indent bound breaks c
  let ending := match chomping with
    | .clip => last
    | .strip => []
    | .keep => last ++ tail
  return (Text.ofList (text ++ ending), c)

end Winnow.Yaml
