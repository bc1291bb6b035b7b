import Winnow.Files.Path
import Winnow.Text.Lines
import Winnow.Text.Quoted

/-!
# The tree of files

Files and directories by their locations, and what can be done with them.

* `Location` — a place in the tree, with no `..` left among its names.
* `Files` — the entries of the tree; `Files.get?` is the view through which it is understood.
* `FileError` — why a path cannot be used, and what is said of it.
* `Files.read`, `Files.append`, `Files.write` — the text of a file; what does not get into it is
  lost.
* `Files.makeDirectory`, `Files.makeDirectories` — new directories.
-/

namespace Winnow

namespace Files

/-! ## Locations -/

/-- A place in the tree: the names that lead to it from the root, or from a number of levels above
the working directory. -/
structure Location where
  fromRoot : Bool := false
  above : Nat := 0
  names : List Text := []
  deriving DecidableEq, Inhabited

namespace Location

/-- The place that a name leads to; `..` leads one level up, and from the root nowhere. -/
def child (l : Location) (name : Text) : Location :=
  if name ≠ ".." then { l with names := l.names ++ [name] }
  else if l.names ≠ [] then { l with names := l.names.dropLast }
  else if l.fromRoot then l
  else { l with above := l.above + 1 }

/-- The place at which a path begins. -/
def ofOrigin : Origin → Location
  | .workingDirectory => {}
  | .root => { fromRoot := true }
  | .doubleRoot => { fromRoot := true }

/-- Whether a place lies inside the working directory. -/
def isInside (l : Location) : Bool := !l.fromRoot && l.above == 0

/-- The path that leads to a place. -/
def path (l : Location) : Path :=
  if l.fromRoot then ⟨.root, l.names⟩
  else ⟨.workingDirectory, List.replicate l.above (Text.ofString "..") ++ l.names⟩

end Location

/-! ## Entries -/

/-- What stands at a place. -/
inductive Entry where
  | directory
  | file (text : String)
  deriving DecidableEq, Inhabited

end Files

/-- The tree of files. -/
structure Files where
  entries : List (Files.Location × Files.Entry) := []
  /-- How many bytes there is room for, at the places where there is not room for all. -/
  rooms : List (Files.Location × Nat) := []
  deriving DecidableEq, Inhabited

namespace Files

/-- Why a path cannot be used, or a file not be written. -/
inductive FileErrorKind where
  | notFound
  | exists
  | notDirectory
  | isDirectory
  /-- The path, or a name on its way, is too long. -/
  | tooLong
  /-- The path holds a NUL. -/
  | unsound
  /-- The path, or the text for the file, cannot be encoded. -/
  | unencodable (fault : Text.Fault)
  /-- There is no more room for the file. -/
  | full
  deriving DecidableEq, Inhabited

/-- The path that cannot be used or written, and why. -/
structure FileError where
  kind : FileErrorKind
  path : Path
  deriving DecidableEq, Inhabited

/-- What is said of a path that cannot be used or written. -/
def FileError.message (e : FileError) : Text :=
  let path := Text.quote e.path.text
  match e.kind with
  | .notFound => "[Errno 2] No such file or directory: " ++ path
  | .exists => "[Errno 17] File exists: " ++ path
  | .notDirectory => "[Errno 20] Not a directory: " ++ path
  | .isDirectory => "[Errno 21] Is a directory: " ++ path
  | .tooLong => "[Errno 36] File name too long: " ++ path
  | .unsound => "embedded null byte"
  | .unencodable fault => fault.message
  | .full => "[Errno 28] No space left on device"

/-- What stands at a place. The root, the working directory and what lies above it are
directories. -/
def get? (files : Files) (l : Location) : Option Entry :=
  if l.names = [] then some .directory else List.lookup l files.entries

/-- The entries with one more, or with another one at its place. -/
def putEntry (l : Location) (entry : Entry) : List (Location × Entry) → List (Location × Entry)
  | [] => [(l, entry)]
  | (place, old) :: rest =>
      if place = l then (place, entry) :: rest else (place, old) :: putEntry l entry rest

/-- The tree with an entry at a place. -/
def put (files : Files) (l : Location) (entry : Entry) : Files :=
  { files with entries := putEntry l entry files.entries }

/-- What is looked up stands at the first place or among the others. -/
theorem lookup_place (k place : Location) (entry : Entry) (entries : List (Location × Entry)) :
    List.lookup k ((place, entry) :: entries) =
      if k = place then some entry else List.lookup k entries := by
  by_cases h : k = place
  · simp [h]
  · simp [List.lookup_cons, beq_false_of_ne h, h]

/-- Putting an entry changes what stands at its own place and nothing else. -/
theorem lookup_putEntry (l k : Location) (entry : Entry) (entries : List (Location × Entry)) :
    List.lookup k (putEntry l entry entries) =
      if k = l then some entry else List.lookup k entries := by
  induction entries with
  | nil => simp [putEntry, lookup_place]
  | cons place rest ih =>
      obtain ⟨k', old⟩ := place
      by_cases h : k' = l
      · simp only [putEntry, h, if_true, lookup_place]
        split <;> rfl
      · simp only [putEntry, h, if_false, lookup_place, ih]
        by_cases hk : k = k'
        · simp [hk, h]
        · simp [hk]

/-- The view of a tree after an entry was put at a place below its roots. -/
theorem get?_put (files : Files) (l k : Location) (entry : Entry) (h : l.names ≠ []) :
    (files.put l entry).get? k = if k = l then some entry else files.get? k := by
  by_cases hk : k = l
  · subst hk
    simp [get?, put, h, lookup_putEntry]
  · simp [get?, put, hk, lookup_putEntry]

/-- What stands elsewhere does not change. -/
theorem get?_put_of_ne (files : Files) {l k : Location} (entry : Entry) (h : k ≠ l) :
    (files.put l entry).get? k = files.get? k := by
  simp [get?, put, lookup_putEntry, h]

/-! ## Finding -/

/-- The place that names lead to. No name may be too long, and every name but the last has to lead
to a directory. -/
def walk (files : Files) (l : Location) : List Text → Except FileErrorKind Location
  | [] => .ok l
  | name :: rest =>
      if !isShortName name then .error .tooLong
      else if rest = [] then .ok (l.child name)
      else match files.get? (l.child name) with
        | none => .error .notFound
        | some (.file _) => .error .notDirectory
        | some .directory => files.walk (l.child name) rest

/-- Why a path cannot be handed to the system. -/
def refusal? (path : Path) : Option FileErrorKind :=
  match path.text.pathFault? with
  | some fault => some (.unencodable fault)
  | none =>
      if !path.isSound then some .unsound
      else if !path.isShort then some .tooLong
      else none

/-- The place that a path leads to. The path as a whole is looked at before any of its names. -/
def locate (files : Files) (path : Path) : Except FileError Location :=
  match refusal? path with
  | some kind => .error ⟨kind, path⟩
  | none =>
      match files.walk (Location.ofOrigin path.origin) path.names with
      | .ok l => .ok l
      | .error kind => .error ⟨kind, path⟩

/-- What a path leads to, if it leads anywhere. -/
def find? (files : Files) (path : Path) : Option Entry :=
  match files.locate path with
  | .ok l => files.get? l
  | .error _ => none

/-- Whether a path leads to a file. One that is too long leads nowhere that could be looked at. -/
def isFile (files : Files) (path : Path) : Except FileError Bool :=
  match files.locate path with
  | .ok l => .ok (match files.get? l with
      | some (.file _) => true
      | _ => false)
  | .error e => if e.kind = .tooLong then .error e else .ok false

/-- Whether a path leads to a directory. -/
def isDirectory (files : Files) (path : Path) : Bool :=
  match files.find? path with
  | some .directory => true
  | _ => false

/-! ## Reading and writing -/

/-- The text of the file at a path, under one line ending. -/
def read (files : Files) (path : Path) : Except FileError Text := do
  match files.get? (← files.locate path) with
  | none => .error ⟨.notFound, path⟩
  | some .directory => .error ⟨.isDirectory, path⟩
  | some (.file text) => .ok (Text.joinEndings text)

/-- The place of the file at a path, which may be still to be made. -/
def target (files : Files) (path : Path) : Except FileError Location := do
  let l ← files.locate path
  match files.get? l with
  | some .directory => .error ⟨.isDirectory, path⟩
  | _ => .ok l

/-- The tree with a file at a place: the one that is there, or an empty one. -/
def touch (files : Files) (l : Location) : Files :=
  match files.get? l with
  | some _ => files
  | none => files.put l (.file "")

/-- The characters at the head of a text that fit into so many bytes. -/
def fitting : Nat → List Char → List Char
  | _, [] => []
  | room, c :: rest => if c.utf8Size ≤ room then c :: fitting (room - c.utf8Size) rest else []

/-- What a file at a place takes of a text that follows what it holds. -/
def taken (files : Files) (l : Location) (before text : String) : String :=
  match files.rooms.lookup l with
  | none => text
  | some room => String.ofList (fitting (room - before.utf8ByteSize) text.toList)

/-- Puts a text after the one of the file at a place. A text that cannot be encoded leaves the file
as it is; of one for which there is no room, the file takes what fits. -/
def append (files : Files) (l : Location) (text : Text) : Files × Except FileErrorKind Unit :=
  match files.get? l, text.encode with
  | some (.file _), .error fault => (files, .error (.unencodable fault))
  | some (.file before), .ok text =>
      let part := files.taken l before text
      (files.put l (.file (before ++ part)), if part = text then .ok () else .error .full)
  | _, _ => (files, .ok ())

/-- Makes the file at a path anew with a text. It is emptied before anything else is done to it. -/
def write (files : Files) (path : Path) (text : Text) : Files × Except FileError Unit :=
  match files.target path with
  | .error e => (files, .error e)
  | .ok l =>
      match (files.put l (.file "")).append l text with
      | (written, .ok ()) => (written, .ok ())
      | (written, .error kind) => (written, .error ⟨kind, path⟩)

/-- Making sure of one file leaves all other places as they are. -/
theorem get?_touch_of_ne (files : Files) {l k : Location} (h : k ≠ l) :
    (files.touch l).get? k = files.get? k := by
  unfold touch
  split
  · rfl
  · exact get?_put_of_ne files _ h

/-- Writing after the end of one file leaves all other places as they are. -/
theorem get?_append_of_ne (files : Files) {l k : Location} (text : Text) (h : k ≠ l) :
    (files.append l text).1.get? k = files.get? k := by
  unfold append
  split
  · rfl
  · exact get?_put_of_ne files _ h
  · rfl

/-! ## Directories -/

/-- Makes one directory. -/
def makeDirectory (files : Files) (path : Path) : Except FileError Files := do
  let l ← files.locate path
  match files.get? l with
  | some _ => .error ⟨.exists, path⟩
  | none => return files.put l .directory

/-- Makes one directory, or leaves the one that is there. -/
def ensureDirectory (files : Files) (path : Path) : Except FileError Files :=
  match files.makeDirectory path with
  | .ok made => .ok made
  | .error e => if files.isDirectory path then .ok files else .error e

/-- Makes a directory together with those above it, where `reversed` holds the names of the path
from the last to the first. What was made before an error stays. -/
def makeAll (origin : Origin) : List Text → Files → Files × Except FileError Unit
  | [], files =>
      match files.ensureDirectory ⟨origin, []⟩ with
      | .ok made => (made, .ok ())
      | .error e => (files, .error e)
  | name :: above, files =>
      let path : Path := ⟨origin, (name :: above).reverse⟩
      match files.ensureDirectory path with
      | .ok made => (made, .ok ())
      | .error e =>
          if e.kind = .notFound then
            match makeAll origin above files with
            | (made, .error e) => (made, .error e)
            | (made, .ok ()) =>
                match made.ensureDirectory path with
                | .ok last => (last, .ok ())
                | .error e => (made, .error e)
          else (files, .error e)

/-- Makes a directory together with those above it, or leaves the ones that are there. -/
def makeDirectories (files : Files) (path : Path) : Files × Except FileError Unit :=
  makeAll path.origin path.names.reverse files

/-! ## Collections -/

/-- The tree with a file at a path and the directories above it; without them, the tree as it is. -/
def withFile (files : Files) (path : Path) (text : String) : Files :=
  let made := (files.makeDirectories path.parent).1
  match made.target path with
  | .ok l => made.put l (.file text)
  | .error _ => made

/-- The tree that holds the given files. -/
def ofList (contents : List (Text × String)) : Files :=
  contents.foldl (fun files content => files.withFile (Path.ofText content.1) content.2) {}

/-- The entries that are not in `before` in the same form. -/
def changes (files before : Files) : List (Location × Entry) :=
  files.entries.filter fun place => before.get? place.1 ≠ some place.2

/-- The new and changed files inside the working directory, by their paths. -/
def changedTexts (files before : Files) : List (Text × String) :=
  (files.changes before).filterMap fun place =>
    match place with
    | (l, .file text) => if l.isInside then some (l.path.text, text) else none
    | (_, .directory) => none

end Files

end Winnow
