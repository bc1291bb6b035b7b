import Winnow.Text.Basic

/-!
# Lines

* `splitLines` — the lines of a text for display, cut at every character that ends a line.
* `joinEndings` — the one line ending under which files are read.
-/

namespace Winnow.Text

/-- The characters that end a line: line feed, vertical tab, form feed, carriage return, the
separators U+001C to U+001E, next line, and the line and paragraph separators. -/
def isLineEnd (c : CodePoint) : Bool :=
  let n := c.toNat
  (0x0A ≤ n && n ≤ 0x0D) || (0x1C ≤ n && n ≤ 0x1E) || n == 0x85 || n == 0x2028 || n == 0x2029

/-- The lines of `s` after the part `line` of the current one, which is held in reverse. A carriage
return and the line feed after it end one line, and no empty line follows the last ending. -/
def splitLinesFrom (line : List CodePoint) : List CodePoint → List (List CodePoint)
  | [] => if line.isEmpty then [] else [line.reverse]
  | '\r' :: '\n' :: rest => line.reverse :: splitLinesFrom [] rest
  | c :: rest =>
      if isLineEnd c then line.reverse :: splitLinesFrom [] rest
      else splitLinesFrom (c :: line) rest

/-- The lines of a list of characters. -/
def splitLinesL (s : List CodePoint) : List (List CodePoint) := splitLinesFrom [] s

/-- The lines of a text, without their endings. -/
def splitLines (s : Text) : List Text :=
  (splitLinesL s.toList).map Text.ofList

/-- Every line ending of a file becomes a line feed: a carriage return with its line feed, and a
carriage return alone. -/
def joinEndingsL : List CodePoint → List CodePoint
  | [] => []
  | '\r' :: '\n' :: rest => '\n' :: joinEndingsL rest
  | c :: rest => (if c = '\r' then '\n' else c) :: joinEndingsL rest

/-- A text without carriage returns stays as it is. -/
theorem joinEndingsL_of_not_mem {s : List CodePoint} (h : .char '\r' ∉ s) : joinEndingsL s = s := by
  fun_induction joinEndingsL s with
  | case1 => rfl
  | case2 => simp at h
  | case3 c rest _ ih =>
      simp only [List.mem_cons, not_or] at h
      simp [Ne.symm h.1, ih h.2]

/-- A file's text as it is read. -/
def joinEndings (s : Text) : Text :=
  Text.ofList (joinEndingsL s.toList)

end Winnow.Text
