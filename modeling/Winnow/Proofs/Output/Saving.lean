import Winnow.Proofs.Files.Directories
import Winnow.Proofs.Json.Halves
import Winnow.Proofs.Output.Accord

/-!
# Saving is all or nothing

Saving the results of an action takes several steps, and each of them may fail. Where one does,
nothing has changed but directories that are new, and perhaps the result file, if writing it was
what failed; where all are done, the file of the action holds the text of all results.

* `Job.IsWordless`, `Job.IsHalved` — results that have no text, and those whose text no file can
  hold.
* `ResultFile.exists_text_error_iff`, `ResultFile.hasHalf_text_iff` — when that is so of all
  results.
* `ResultFile.exists_save_error_iff` — when saving fails.
* `Session.Reached` — a session after any events, with all results that were written.
* `Session.saveSteps` — saving step by step; `run_saveSteps` — the steps are what saving does.
* `Session.LeftAlone`, `Session.SavedTo` — a session after saving failed, and after it was done.
* `Session.AllOrNothing`, `saves_all_or_nothing` — when saving fails, and what it leaves.
* `Session.FailsInWords`, `Session.ChangesElsewhere` — what else can be in the way, and what else
  changes.
-/

namespace Winnow

open Hosted (runOn)
open Files (OnlyDirectories OpensIn)
open Host (Told)
open Output (Job)
open Winnow.Expr.Item (StandsIn IsNest IsTooMuch HasHalves)

/-! ## Results without a text -/

namespace Output.Job

/-- No words stand for something in a result. -/
def IsWordless (job : Job) : Prop :=
  ∃ x n, StandsIn x n job.result.value ∧ Expr.Item.IsWordless x

/-- A half stands alone in the path of the document, in the query, or in some text of a result. -/
def IsHalved (job : Job) : Prop :=
  (∃ path, job.dataPath = some path ∧ HasHalf path.toList) ∨ HasHalf job.result.query.toList ∨
    HasHalves job.result.value

/-- The path of a document and the query have words, so in an entry only the result can be without.
-/
theorem exists_isWordless_entry_iff {job : Job} :
    (∃ x n, StandsIn x n job.entry ∧ Expr.Item.IsWordless x) ↔ job.IsWordless := by
  constructor
  · rintro ⟨x, n, hx, hword⟩
    cases hx with
    | self => cases hword
    | @key _ entry hentry h =>
        have hkey : ∃ s, entry.1 = .text s := by
          simp only [List.mem_cons, List.not_mem_nil, or_false] at hentry
          rcases hentry with rfl | rfl | rfl <;> exact ⟨_, rfl⟩
        obtain ⟨s, hs⟩ := hkey
        rw [← h, hs] at hword
        cases hword
    | value hentry hx =>
        simp only [List.mem_cons, List.not_mem_nil, or_false] at hentry
        rcases hentry with rfl | rfl | rfl
        · obtain ⟨result, dataPath⟩ := job
          cases dataPath <;>
          · cases hx
            cases hword
        · cases hx
          cases hword
        · exact ⟨x, _, hx, hword⟩
  · rintro ⟨x, n, hx, hword⟩
    exact ⟨x, n + 1, .value (List.mem_cons_of_mem _ (List.mem_cons_of_mem _ List.mem_cons_self)) hx,
      hword⟩

theorem hasHalves_entry_iff {job : Job} : HasHalves job.entry ↔ job.IsHalved := by
  have hkey : ∀ {name : String}, ¬Expr.Item.IsHalved (Expr.Key.text (Text.ofString name)).item := by
    rintro name ⟨h⟩
    exact Text.not_hasHalf_ofString name h
  have htext : ∀ {s : Text}, HasHalves (.text s) ↔ HasHalf s.toList := by
    intro s
    rw [Expr.Item.hasHalves_of_not_isNest (v := .text s) nofun]
    exact ⟨fun ⟨h⟩ => h, .text⟩
  have hpath : HasHalves ((job.dataPath.map .text).getD .null) ↔
      ∃ path, job.dataPath = some path ∧ HasHalf path.toList := by
    cases job.dataPath with
    | none =>
        refine iff_of_false ?_ (by simp)
        exact fun h => nomatch (Expr.Item.hasHalves_of_not_isNest (v := .null) nofun).1 h
    | some path => simp [htext]
  rw [entry, QueryResult.entry, Expr.Item.hasHalves_object_iff, IsHalved]
  simp [hkey, htext, hpath]

end Output.Job

namespace ResultFile

section

variable [Limits] {file : ResultFile} {jobs : List Job} (h : file.results = jobs.map Job.entry)

include h

/-- **When results have no text**: one of them has no words, or there is no room for all of them. -/
theorem exists_text_error_iff :
    (∃ e, file.text = .error e) ↔
      (∃ job ∈ jobs, job.IsWordless) ∨
        IsTooMuch .resultFile file.indent (.array (jobs.map Job.entry)) := by
  have hwords : (∃ x n, StandsIn x n (.array (jobs.map Job.entry)) ∧ Expr.Item.IsWordless x) ↔
      ∃ job ∈ jobs, job.IsWordless := by
    simp only [← Job.exists_isWordless_entry_iff]
    constructor
    · rintro ⟨x, n, hx, hword⟩
      cases hx with
      | self => cases hword
      | item hitem hx =>
          obtain ⟨job, hjob, rfl⟩ := List.mem_map.1 hitem
          exact ⟨job, hjob, x, _, hx, hword⟩
    · rintro ⟨job, hjob, x, n, hx, hword⟩
      exact ⟨x, n + 1, .item (List.mem_map_of_mem hjob) hx, hword⟩
  rw [exists_error_iff, text, exists_mapError_ok_iff, ← exists_error_iff,
    Json.exists_write_error_iff, h, ← hwords]
  constructor
  · rintro (⟨hx, hword⟩ | hmuch)
    · exact .inl ⟨_, _, hx, hword⟩
    · exact .inr hmuch
  · rintro (⟨x, n, hx, hword⟩ | hmuch)
    · exact .wordless hx hword
    · exact .tooMuch hmuch

/-- A half stands alone in the text of results if one stands alone in one of them. -/
theorem hasHalf_text_iff {text : Text} (htext : file.text = .ok text) :
    HasHalf text.toList ↔ ∃ job ∈ jobs, job.IsHalved := by
  have hlayout : (Json.Layout.indented .resultFile file.indent).IsIndented file.indent :=
    ⟨rfl, rfl, rfl, rfl⟩
  rw [Json.hasHalf_write_iff hlayout (eq_ok_of_mapError_eq_ok htext),
    Expr.Item.hasHalves_array_iff, h]
  simp [Job.hasHalves_entry_iff]

end

/-! ## When saving fails -/

/-- **When a text is stored**: a file can be opened at the path for the action, in the directory
that is made for it, and takes the text, in which no half stands alone and for which there is room.
-/
theorem exists_store_iff {file : ResultFile} {now : Timestamp} {action text : Text}
    {files : Files} :
    (∃ path, (file.store now action text files).2 = .ok path) ↔
      OpensIn files file.dir (file.path now action) ∧ ∃ string, text = Text.ofString string ∧
        files.HasRoom (file.path now action).place string.utf8ByteSize := by
  have hrooms : ∀ {made}, files.makeDirectories file.dir = (made, .ok ()) →
      made.rooms = files.rooms := by
    intro made hmade
    have honly := Files.onlyDirectories_makeDirectories files file.dir
    rw [hmade] at honly
    exact honly.keeps.rooms
  have hplace : ∀ {made : Files} {place}, made.target (file.path now action) = .ok place →
      place = (file.path now action).place := fun htarget =>
    (Files.leads_iff.1 (Files.eq_of_target htarget).1).2.2
  rw [Files.opensIn_iff]
  constructor
  · rintro ⟨path, h⟩
    obtain ⟨rfl, made, hmade, hwrite⟩ := exists_of_store (Prod.ext rfl h)
    obtain ⟨place, string, htarget, rfl, hroom, -⟩ := Files.write_eq_ok_iff.1 hwrite
    refine ⟨⟨made, place, hmade, htarget⟩, string, rfl, ?_⟩
    rwa [Files.HasRoom, hrooms hmade, hplace htarget] at hroom
  · rintro ⟨⟨made, place, hmade, htarget⟩, string, rfl, hroom⟩
    have hwrite : made.write (file.path now action) (Text.ofString string) =
        (made.put place (.file string), .ok ()) := by
      refine Files.write_eq_ok_iff.2 ⟨place, string, htarget, rfl, ?_, rfl⟩
      rwa [Files.HasRoom, hrooms hmade, hplace htarget]
    exact ⟨file.path now action, by simp [store, hmade, hwrite]⟩

section

variable [Limits]

/-- Results that have a text are not saved if it cannot be stored. -/
theorem exists_save_error_iff_store {file : ResultFile} {action text : Text} {host : Host}
    (htext : file.text = .ok text) :
    (∃ e, (runOn (file.save action) host).1 = .error e) ↔
      ¬∃ path, (file.store host.now action text host.files).2 = .ok path := by
  rw [← exists_error_iff, runOn_save, htext]
  dsimp only
  cases file.store host.now action text host.files with
  | mk files outcome => cases outcome <;> simp

/-- **When saving fails**: the results have no text, or it cannot be stored. -/
theorem exists_save_error_iff {file : ResultFile} {action : Text} {host : Host} :
    (∃ e, (runOn (file.save action) host).1 = .error e) ↔
      (∃ e, file.text = .error e) ∨ (∃ text, file.text = .ok text ∧ HasHalf text.toList) ∨
        ¬OpensIn host.files file.dir (file.path host.now action) ∨
        ∃ text, file.text = .ok (Text.ofString text) ∧
          ¬host.files.HasRoom (file.path host.now action).place text.utf8ByteSize := by
  cases htext : file.text with
  | error e =>
      rw [runOn_save, htext]
      simp
  | ok text =>
      rw [exists_save_error_iff_store htext, exists_store_iff]
      by_cases hhalf : HasHalf text.toList
      · refine iff_of_true ?_ (.inr (.inl ⟨text, rfl, hhalf⟩))
        rintro ⟨-, string, rfl, -⟩
        exact Text.not_hasHalf_ofString string hhalf
      · obtain ⟨string, rfl⟩ : ∃ string, text = Text.ofString string :=
          ⟨_, (Text.ofString_characters (not_exists.1 hhalf)).symm⟩
        simp [Text.ofString_inj, imp_iff_not_or]

/-- What was saved is what was collected, with the path that it was saved to. -/
theorem eq_of_save {file saved : ResultFile} {action : Text} {host after : Host}
    (h : runOn (file.save action) host = (.ok saved, after)) :
    saved = { file with savedTo := some (file.path host.now action) } := by
  rw [runOn_save] at h
  split at h
  · cases h
  · split at h
    · cases h
    · next written path hstore =>
        obtain ⟨rfl, -⟩ := exists_of_store hstore
        exact (Except.ok.inj (Prod.mk.inj h).1).symm

end

end ResultFile

namespace Session

/-! ## Sessions with any results -/

/-- A result is written. -/
def write (s : Session) (job : Job) : Session :=
  { s with file := s.file.add job.result job.dataPath }

/-- A session after any events, with the results that were written: results of any values are
written, and whatever else happens. -/
inductive Reached [Limits] : Session → List Job → Prop
  | fresh (baseDir : Text) (indent : ℕ) (now : Timestamp) (files : Files) :
      Reached (fresh baseDir indent now files) []
  | write {s : Session} {jobs : List Job} (h : Reached s jobs) (job : Job) :
      Reached (s.write job) (jobs ++ [job])
  | event {s : Session} {jobs : List Job} (h : Reached s jobs) {event : Event}
      (hevent : event.entry? = none) : Reached (s.step event) jobs

/-- All results that were written are collected, whether they can be saved or not, and the logger
writes to log files only. -/
theorem Reached.invariant [Limits] {s : Session} {jobs : List Job} (h : s.Reached jobs) :
    s.file.results = jobs.map Job.entry ∧ s.LogsApart := by
  induction h with
  | fresh baseDir indent now files => exact ⟨rfl, (invariant_fresh baseDir indent now files).logger⟩
  | write h job ih =>
      refine ⟨?_, ih.2⟩
      rw [List.map_append, ← ih.1]
      rfl
  | event h hevent ih =>
      refine ⟨?_, ih.2.step _⟩
      rw [results_step, hevent, ih.1]
      exact List.append_nil _

/-! ## Step by step -/

/-- Computations on a session. What was done stays done when something fails. -/
abbrev Saving := ExceptT OutputError (StateM Session)

namespace Saving

/-- The text of all results. -/
def makeText [Limits] : Saving Text := ExceptT.mk fun s => (s.file.text, s)

/-- The directories for the result file. -/
def makeDirectories : Saving Unit := ExceptT.mk fun s =>
  let (made, outcome) := s.host.files.makeDirectories s.file.dir
  (outcome.mapError .file, { s with host := { s.host with files := made } })

/-- The file for an action. -/
def writeText (action text : Text) : Saving Files.Path := ExceptT.mk fun s =>
  let path := s.file.path s.host.now action
  let (written, outcome) := s.host.files.write path text
  ((outcome.map fun _ => path).mapError .file, { s with host := { s.host with files := written } })

/-- The path is kept. -/
def keepPath (path : Files.Path) : Saving Unit :=
  modify fun s => { s with file := { s.file with savedTo := some path } }

/-- The log is told. -/
def tellLog (path : Files.Path) : Saving Unit :=
  modify fun s => { s with host := s.host.record ⟨Log.info, "JSON saved to " ++ path.text⟩ }

theorem run_makeText [Limits] (s : Session) : makeText.run.run s = (s.file.text, s) := rfl

theorem run_makeDirectories (s : Session) :
    makeDirectories.run.run s =
      ((s.host.files.makeDirectories s.file.dir).2.mapError .file,
        { s with host := { s.host with files := (s.host.files.makeDirectories s.file.dir).1 } }) :=
  rfl

theorem run_writeText (action text : Text) (s : Session) :
    (writeText action text).run.run s =
      let path := s.file.path s.host.now action
      (((s.host.files.write path text).2.map fun _ => path).mapError .file,
        { s with host := { s.host with files := (s.host.files.write path text).1 } }) := rfl

theorem run_bind {α β : Type} (x : Saving α) (f : α → Saving β) (s : Session) :
    (x >>= f).run.run s =
      match x.run.run s with
      | (.ok a, later) => (f a).run.run later
      | (.error e, later) => (.error e, later) := by
  rw [ExceptT.run_bind, StateT.run_bind]
  cases x.run.run s with
  | mk outcome later => cases outcome <;> rfl

end Saving

section

variable [Limits]

/-- Saving step by step. -/
def saveSteps (action : Text) : Saving Unit := do
  let text ← Saving.makeText
  Saving.makeDirectories
  let path ← Saving.writeText action text
  Saving.keepPath path
  Saving.tellLog path

/-- **The steps are what saving does**, and where one of them fails, the file stays as it was. -/
theorem run_saveSteps (s : Session) (action : Text) :
    (saveSteps action).run.run s =
      match runOn (s.file.save action) s.host with
      | (.ok saved, after) => (.ok (), ⟨saved, after⟩)
      | (.error e, after) => (.error e, ⟨s.file, after⟩) := by
  rw [ResultFile.runOn_save, saveSteps, Saving.run_bind, Saving.run_makeText]
  cases s.file.text with
  | error e => rfl
  | ok text =>
      dsimp only
      rw [Saving.run_bind, Saving.run_makeDirectories, ResultFile.store]
      cases s.host.files.makeDirectories s.file.dir with
      | mk made outcome =>
          cases outcome with
          | error cause => rfl
          | ok u =>
              change (Saving.writeText action text >>= _).run.run _ = _
              rw [Saving.run_bind, Saving.run_writeText]
              dsimp only
              cases made.write (s.file.path s.host.now action) text with
              | mk written outcome => cases outcome <;> rfl

/-! ## All or nothing -/

/-- What saving leaves that fails: the results and the path that was kept are as before, nothing was
logged, and at most some directories are new; or the file of the action was opened and holds the
beginning of the text of all results, because that text cannot be encoded or there is no room for
it. -/
structure LeftAlone (s : Session) (action : Text) (last : Session) : Prop where
  file : last.file = s.file
  told : Told s.host last.host []
  files : s.file.Unsaved (s.file.path s.host.now action) s.host.files last.host.files

/-- What saving leaves that is done: the results are as before, the path of the action is kept, and
at that path is the text of all results. -/
structure SavedTo (s : Session) (action : Text) (last : Session) : Prop where
  file : last.file = { s.file with savedTo := some (s.file.path s.host.now action) }
  stored : ∃ text, s.file.text = .ok (Text.ofString text) ∧
    s.host.Stored last.host (s.file.path s.host.now action) text

/-- Saving is done and leaves the results saved, or it fails and leaves the session alone. -/
theorem saveSteps_cases {s : Session} (h : s.LogsApart) (action : Text) :
    (∃ e last, (saveSteps action).run.run s = (.error e, last) ∧ s.LeftAlone action last) ∨
      ∃ last, (saveSteps action).run.run s = (.ok (), last) ∧ s.SavedTo action last := by
  rw [run_saveSteps]
  rcases s.file.save_cases action h with
    ⟨e, after, hsave, htold, honly⟩ | ⟨saved, after, text, hsave, htext, hstored⟩
  · left
    rw [hsave]
    exact ⟨e, _, rfl, rfl, htold, honly⟩
  · right
    obtain rfl := ResultFile.eq_of_save hsave
    rw [hsave]
    exact ⟨_, rfl, rfl, text, htext, hstored⟩

theorem leftAlone_of_error {s last : Session} (hlogs : s.LogsApart) {action : Text}
    {e : OutputError}
    (h : (saveSteps action).run.run s = (.error e, last)) :
    s.LeftAlone action last := by
  rcases saveSteps_cases hlogs action with ⟨_, _, hrun, halone⟩ | ⟨_, hrun, -⟩
  · obtain rfl := (Prod.mk.inj (h.symm.trans hrun)).2
    exact halone
  · cases h.symm.trans hrun

theorem savedTo_of_ok {s last : Session} (hlogs : s.LogsApart) {action : Text}
    (h : (saveSteps action).run.run s = (.ok (), last)) : s.SavedTo action last := by
  rcases saveSteps_cases hlogs action with ⟨_, _, hrun, -⟩ | ⟨_, hrun, hsaved⟩
  · cases h.symm.trans hrun
  · obtain rfl := (Prod.mk.inj (h.symm.trans hrun)).2
    exact hsaved

/-- All results of some jobs are saved for an action, or nothing changes. -/
structure AllOrNothing (s : Session) (jobs : List Job) (action : Text) : Prop where
  /-- Saving fails where some result has no words or is too much for the machine, where a half
  stands alone in some result, where the file cannot be opened in the directory that is made for it,
  and where there is no room for the text there. -/
  fails_iff : (∃ e, ((saveSteps action).run.run s).1 = .error e) ↔
    (∃ job ∈ jobs, job.IsWordless) ∨
      IsTooMuch .resultFile s.file.indent (.array (jobs.map Job.entry)) ∨
      (∃ job ∈ jobs, job.IsHalved) ∨
      ¬OpensIn s.host.files s.file.dir (s.file.path s.host.now action) ∨
      ∃ text, s.file.text = .ok (Text.ofString text) ∧
        ¬s.host.files.HasRoom (s.file.path s.host.now action).place text.utf8ByteSize
  leftAlone : ∀ e last, (saveSteps action).run.run s = (.error e, last) →
    s.LeftAlone action last
  savedTo : ∀ last, (saveSteps action).run.run s = (.ok (), last) → s.SavedTo action last

/-- **When saving fails**, by what was written. -/
theorem exists_saveSteps_error_iff {s : Session} {jobs : List Job} (h : s.Reached jobs)
    {action : Text} :
    (∃ e, ((saveSteps action).run.run s).1 = .error e) ↔
      (∃ job ∈ jobs, job.IsWordless) ∨
        IsTooMuch .resultFile s.file.indent (.array (jobs.map Job.entry)) ∨
        (∃ job ∈ jobs, job.IsHalved) ∨
        ¬OpensIn s.host.files s.file.dir (s.file.path s.host.now action) ∨
        ∃ text, s.file.text = .ok (Text.ofString text) ∧
          ¬s.host.files.HasRoom (s.file.path s.host.now action).place text.utf8ByteSize := by
  have hfails : (∃ e, ((saveSteps action).run.run s).1 = .error e) ↔
      ∃ e, (runOn (s.file.save action) s.host).1 = .error e := by
    rw [run_saveSteps]
    cases runOn (s.file.save action) s.host with
    | mk outcome after => cases outcome <;> simp
  have hresults := h.invariant.1
  rw [hfails, ResultFile.exists_save_error_iff, ← or_assoc (a := ∃ job ∈ jobs, job.IsWordless),
    ← ResultFile.exists_text_error_iff hresults]
  cases htext : s.file.text with
  | error e => simp
  | ok text => simp [← ResultFile.hasHalf_text_iff hresults htext]

end

/-- A session with a log file. -/
def logged [Limits] : Session :=
  (fresh "out" 2 evening {}).step (.setUpLog { action := some "run", toFile := true })

theorem reached_logged [Limits] : logged.Reached [] := (Reached.fresh "out" 2 evening {}).event rfl

/-- Arrays in each other, with nothing in the innermost one but null. -/
def nested : ℕ → Item
  | 0 => .null
  | n + 1 => .array [nested n]

theorem standsIn_nested (k n : ℕ) : StandsIn (nested k) n (nested (k + n)) := by
  induction n with
  | zero => exact .self
  | succ n ih => exact .item List.mem_cons_self ih

theorem not_isWordless_of_nested {k n : ℕ} {x : Item} (h : StandsIn x n (nested k)) :
    ¬Expr.Item.IsWordless x := by
  induction k generalizing n with
  | zero =>
      cases h
      exact nofun
  | succ k ih =>
      cases h with
      | self => exact nofun
      | item hitem h =>
          obtain rfl := List.mem_singleton.1 hitem
          exact ih h

section

variable [Limits]

/-- All results are in words and their file can be opened, and yet they are not saved. -/
structure FailsInWords (s : Session) (jobs : List Job) (action : Text) : Prop where
  reached : s.Reached jobs
  words : ∀ job ∈ jobs, ¬job.IsWordless
  opens : OpensIn s.host.files s.file.dir (s.file.path s.host.now action)
  fails : ∃ e, ((saveSteps action).run.run s).1 = .error e

/-- Saving is done, and it changes a file that stands at another place than the results. -/
def ChangesElsewhere (s : Session) (action : Text) : Prop :=
  ((saveSteps action).run.run s).1 = .ok () ∧
    ∃ place before after,
      ((saveSteps action).run.run s).2.host.files.locate (s.file.path s.host.now action) ≠
        .ok place ∧
      s.host.files.get? place = some (.file before) ∧
      ((saveSteps action).run.run s).2.host.files.get? place = some (.file after) ∧ before ≠ after

end

/-- Where there are no files, the one of an action can be opened. -/
theorem opensIn_fresh (indent : ℕ) :
    OpensIn {} (fresh "out" indent evening {}).file.dir
      ((fresh "out" indent evening {}).file.path evening "run") := by
  let dir := (Files.Path.ofText "out").child "json"
  let path := dir.child ("run" ++ "_" ++ evening.resultMark ++ ".json")
  have hmade : (Files.makeDirectories {} dir).2 = .ok () := by decide +kernel
  have htarget : ((Files.makeDirectories {} dir).1.target path).isOk = true := by decide +kernel
  change OpensIn {} dir path
  rw [Files.opensIn_iff]
  cases hplace : (Files.makeDirectories {} dir).1.target path with
  | error cause =>
      rw [hplace] at htarget
      cases htarget
  | ok place => exact ⟨_, place, Prod.ext rfl hmade, hplace⟩

section

variable [Limits]

/-- Even no results at all are not saved with more blanks per level than can be counted. -/
theorem failsInWords_of_countLimit_le {indent : ℕ} (h : Json.Layout.countLimit ≤ indent) :
    (fresh "out" indent evening {}).FailsInWords [] "run" := by
  have hreached := Reached.fresh "out" indent evening {}
  have hmuch : IsTooMuch .resultFile indent (.array []) := .uncountable h nofun
  exact ⟨hreached, by simp, opensIn_fresh indent,
    (exists_saveSteps_error_iff hreached).2 (.inr (.inl hmuch))⟩

/-- A result that stands too deep is not saved. -/
theorem failsInWords_nested {k : ℕ} (h : Limits.enters .resultFile (k + 2) (nested 1) = false)
    (query : Text) :
    ((fresh "out" 2 evening {}).write ⟨⟨query, nested (1 + k)⟩, none⟩).FailsInWords
      [⟨⟨query, nested (1 + k)⟩, none⟩] "run" := by
  have hreached := (Reached.fresh "out" 2 evening {}).write ⟨⟨query, nested (1 + k)⟩, none⟩
  refine ⟨hreached, ?_, opensIn_fresh 2,
    (exists_saveSteps_error_iff hreached).2 (.inr (.inl (.tooDeep ?_ (.array [.null]) h)))⟩
  · rintro job hjob ⟨x, n, hx, hword⟩
    obtain rfl := List.mem_singleton.1 hjob
    exact not_isWordless_of_nested hx hword
  · exact .item List.mem_cons_self (.value
      (List.mem_cons_of_mem _ (List.mem_cons_of_mem _ List.mem_cons_self)) (standsIn_nested 1 k))

/-- Where a file is written with half of a character, it is not saved. -/
theorem failsInWords_halved (n : Fin 0x800) (query : Text) :
    ((fresh "out" 2 evening {}).write ⟨⟨query, .text ⟨[.half n]⟩⟩, none⟩).FailsInWords
      [⟨⟨query, .text ⟨[.half n]⟩⟩, none⟩] "run" := by
  have hreached := (Reached.fresh "out" 2 evening {}).write ⟨⟨query, .text ⟨[.half n]⟩⟩, none⟩
  have hhalved : HasHalves (.text ⟨[.half n]⟩) :=
    ⟨_, 0, .self, .text ⟨n, List.mem_cons_self⟩⟩
  refine ⟨hreached, ?_, opensIn_fresh 2, (exists_saveSteps_error_iff hreached).2
    (.inr (.inr (.inl ⟨_, List.mem_cons_self, .inr (.inr hhalved)⟩)))⟩
  rintro job hjob ⟨x, m, hx, hword⟩
  obtain rfl := List.mem_singleton.1 hjob
  cases hx
  cases hword

end

/-- Where a log file is set up, saving is told there. -/
theorem changesElsewhere_logged :
    letI := Limits.ordinary
    logged.ChangesElsewhere "run" := by
  let limits := Limits.ordinary
  refine ⟨by decide +kernel, ⟨false, 0, ["log", "run", "run_0506210809.log"]⟩, "",
    "05-06 21:08:09 [INFO] JSON saved to out/json/run_20240506_210809.json\n", ?_, ?_, ?_,
      by decide⟩
  · decide +kernel
  · decide +kernel
  · decide +kernel

end Session

end Winnow
