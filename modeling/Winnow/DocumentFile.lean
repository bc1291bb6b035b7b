import Winnow.Files.Tree
import Winnow.Json.Reader
import Winnow.Limits
import Winnow.Log.Record

/-!
# Documents in files

`readDocument` reads the JSON document in a file and logs what it found.

Section 5.4 of the DocQuery specification: `run` loads JSON data.
-/

namespace Winnow

open Log (Logged)

/-- Why a file gives no document. -/
inductive DocumentError where
  | file (cause : Files.FileError)
  | json (cause : Json.ReadError)
  deriving DecidableEq

/-- How a log tells of a document. -/
def describeDocument : Json.Document → Text
  | .array items => toString items.length ++ " items"
  | v => v.kindName

/-- The document in the file at a path. -/
def readDocument [Limits] (files : Files) (path : Files.Path) :
    Logged DocumentError Json.Document := do
  let text ← match files.read path with
    | .ok text => pure text
    | .error cause => throw (.file cause)
  let document ← match Json.readL Limits.documentLevels text.toList with
    | .ok document => pure document
    | .error cause => throw (.json cause)
  Log.write Log.info ("Loaded " ++ describeDocument document ++ " from " ++ path.text)
  return document

end Winnow
