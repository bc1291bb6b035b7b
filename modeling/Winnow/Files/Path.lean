import Winnow.Text.Encoding

/-!
# Paths

A path is held in its normal form: doubled slashes and the name `.` have no meaning and vanish,
while `..` stays, because what it leads to depends on the files.

* `Path.ofText`, `Path.text` — reading and writing.
* `Path.join` — one path after another; a path that begins at the root takes the place of the first.
* `Path.parent` — the path without its last name.
* `Path.isSound`, `Path.isShort`, `isShortName` — what no path may hold, and how long paths and
  names may be.
-/

namespace Winnow.Files

/-- Where a path begins. -/
inductive Origin where
  | workingDirectory
  | root
  /-- Exactly two slashes, which are kept apart from one. -/
  | doubleRoot
  deriving DecidableEq, Inhabited

/-- A path in normal form. -/
structure Path where
  origin : Origin := .workingDirectory
  names : List Text := []
  deriving DecidableEq, Inhabited

namespace Path

/-! ## Reading -/

/-- The parts of a text between its slashes, where `part` is the current part in reverse. -/
def splitSlashFrom (part : List CodePoint) : List CodePoint → List (List CodePoint)
  | [] => [part.reverse]
  | '/' :: rest => part.reverse :: splitSlashFrom [] rest
  | c :: rest => splitSlashFrom (c :: part) rest

/-- Whether a part between slashes is a name. -/
def isName (part : List CodePoint) : Bool := part ≠ [] && part ≠ [.char '.']

/-- The names that a text lists between its slashes. -/
def namesL (s : List CodePoint) : List Text :=
  ((splitSlashFrom [] s).filter isName).map Text.ofList

/-- Where a text begins. -/
def originL : List CodePoint → Origin
  | '/' :: '/' :: '/' :: _ => .root
  | '/' :: '/' :: _ => .doubleRoot
  | '/' :: _ => .root
  | _ => .workingDirectory

/-- The path that a text names. -/
def ofText (s : Text) : Path := ⟨originL s.toList, namesL s.toList⟩

/-! ## Writing -/

/-- The slashes at the beginning of a path. -/
def slashes : Origin → Text
  | .workingDirectory => ""
  | .root => "/"
  | .doubleRoot => "//"

/-- The text of a path; the path without names is the working directory itself. -/
def text (p : Path) : Text :=
  if p.origin = .workingDirectory ∧ p.names = [] then "."
  else slashes p.origin ++ Text.intercalate "/" p.names

/-! ## Joining -/

/-- The path `q` seen from `p`. -/
def join (p q : Path) : Path :=
  if q.origin = .workingDirectory then ⟨p.origin, p.names ++ q.names⟩ else q

/-- A text, read as a path, seen from `p`. -/
def child (p : Path) (name : Text) : Path := p.join (ofText name)

/-- The path without its last name; where there is none, the path itself. -/
def parent (p : Path) : Path := ⟨p.origin, p.names.dropLast⟩

/-! ## Limits -/

/-- Whether a path can be handed to the system at all: NUL ends every name there. -/
def isSound (p : Path) : Bool := !p.text.toList.contains (.char '\x00')

/-- The most bytes of a path. -/
def lengthLimit : Nat := 4095

/-- Whether a path is not too long. -/
def isShort (p : Path) : Bool := p.text.pathSize ≤ lengthLimit

end Path

/-- The most bytes of a name. -/
def nameLimit : Nat := 255

/-- Whether a name is not too long. -/
def isShortName (name : Text) : Bool := name.pathSize ≤ nameLimit

end Winnow.Files
