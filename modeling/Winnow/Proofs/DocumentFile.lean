import Winnow.DocumentFile
import Winnow.Proofs.Files.Tree
import Winnow.Proofs.Log.Telling

/-!
# Documents that are read

* `exists_tells_readDocument`, `outcome_readDocument` — what reading a document logs and yields.
* `readDocument_iff` — a document is read if the file at the path holds a text of it.
* `readDocument_unique` — trees that hold the same texts have the same documents.
-/

namespace Winnow

open Files (SameTexts)
open Json (Document)
open Log (Tells runLogged)

variable [Limits]

/-- A document that was read is all that is logged, and what is logged does not count for the
outcome. -/
theorem exists_tells_readDocument (files : Files) (path : Files.Path) : ∃ records,
    Tells (readDocument files path) records (do
      let text ← (files.read path).mapError DocumentError.file
      (Json.readL Limits.documentLevels text.toList).mapError DocumentError.json) ∧ ∀ r ∈ records,
        r.IsRoutine := by
  unfold readDocument
  cases files.read path with
  | error cause => exact ⟨[], (Log.tells_throw _).bind_error, by simp⟩
  | ok text =>
      dsimp only
      rw [pure_bind]
      change ∃ records,
        Tells _ records
          ((Json.readL Limits.documentLevels text.toList).mapError DocumentError.json) ∧ _
      cases Json.readL Limits.documentLevels text.toList with
      | error cause => exact ⟨[], (Log.tells_throw _).bind_error, by simp⟩
      | ok document =>
          refine ⟨_, (Log.tells_pure document).bind
            ((Log.tells_write _ _).bind (Log.tells_pure document)), ?_⟩
          simp [Log.Record.IsRoutine]

theorem outcome_readDocument (files : Files) (path : Files.Path) :
    (runLogged (readDocument files path)).2 = (do
      let text ← (files.read path).mapError DocumentError.file
      (Json.readL Limits.documentLevels text.toList).mapError DocumentError.json) := by
  obtain ⟨records, htells, -⟩ := exists_tells_readDocument files path
  rw [htells.runLogged_eq]

/-- A document is read if the file at the path holds a text of it. -/
theorem readDocument_iff {files : Files} {path : Files.Path} {d : Document} :
    (runLogged (readDocument files path)).2 = .ok d ↔
      ∃ text, files.read path = .ok text ∧
        Json.readL Limits.documentLevels text.toList = .ok d := by
  rw [outcome_readDocument]
  constructor
  · intro h
    obtain ⟨text, htext, h⟩ := exists_of_bind_eq_ok h
    exact ⟨text, eq_ok_of_mapError_eq_ok htext, eq_ok_of_mapError_eq_ok h⟩
  · rintro ⟨text, hfile, hread⟩
    rw [hfile]
    change (Json.readL Limits.documentLevels text.toList).mapError DocumentError.json = _
    rw [hread]
    rfl

/-- A file whose text is not read gives no document. -/
theorem readDocument_of_readL_error {files : Files} {path : Files.Path} {text : Text}
    (hfile : files.read path = .ok text) {cause : Json.ReadError}
    (hread : Json.readL Limits.documentLevels text.toList = .error cause) :
    (runLogged (readDocument files path)).2 = .error (.json cause) := by
  rw [outcome_readDocument, hfile]
  change (Json.readL Limits.documentLevels text.toList).mapError DocumentError.json = _
  rw [hread]
  rfl

/-- The empty text is that of no document. -/
theorem read_empty_ne_ok (d : Document) :
    Json.readL Limits.documentLevels (Text.joinEndings "").toList ≠ .ok d := by
  have hread : Json.readL Limits.documentLevels (Text.joinEndings "").toList =
      .error .malformed := rfl
  rw [hread]
  exact fun h => nomatch h

/-- Trees that hold the texts of one tree do not hold different documents at a path. -/
theorem readDocument_unique {files a b : Files} (ha : SameTexts files a) (hb : SameTexts files b)
    {path : Files.Path} {d e : Document} (hd : (runLogged (readDocument a path)).2 = .ok d)
    (he : (runLogged (readDocument b path)).2 = .ok e) : d = e := by
  obtain ⟨_, hfile, hread⟩ := readDocument_iff.1 hd
  obtain ⟨_, hfile', hread'⟩ := readDocument_iff.1 he
  obtain ⟨l, whole, hlocate, hget, rfl⟩ := Files.exists_of_read hfile
  obtain ⟨l', whole', hlocate', hget', rfl⟩ := Files.exists_of_read hfile'
  obtain rfl := Files.locate_unique hlocate hlocate'
  have hne : ∀ {text : String} {d : Document},
      Json.readL Limits.documentLevels (Text.joinEndings text).toList = .ok d → text ≠ "" := by
    rintro text d h rfl
    exact read_empty_ne_ok d h
  -- the text stands in the tree that both came from
  have hleft := (ha l whole (hne hread)).1 hget
  have hright := (hb l whole' (hne hread')).1 hget'
  rw [hleft] at hright
  obtain rfl : whole = whole' := Files.Entry.file.inj (Option.some.inj hright)
  rw [hread] at hread'
  exact Except.ok.inj hread'

end Winnow
