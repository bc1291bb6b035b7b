import Winnow.Output.Writer
import Winnow.Proofs.DocumentFile
import Winnow.Proofs.Host
import Winnow.Proofs.Json.Characters
import Winnow.Proofs.Json.Room
import Winnow.Proofs.Spec.Values

/-!
# Result files are read back

Whatever happened to a result file before, once its results are saved, the file that they were saved
to holds all of them, in order.

* `writeValue_ofDocument` — a document is written alike wherever it stands.
* `runOn_save` — what saving does.
* `exists_read_of_finish` — at the end of an action the results are in their file.
* `Session` — a result file with its host; `Session.step` and `Session.run` — what happens to them.
* `Session.Invariant` — what no event breaks: the file holds what was written, and the logger writes
  to log files only.
* `read_saved` — the saved results are read back.
-/

namespace Winnow

open Hosted (runOn)
open Json (Document Layout Value writeValue writeItems writeEntries)
open Expr.Item (ofDocument ofItems ofEntries)
open Files (Location EndsIn)
open Log (logEnding runLogged)

/-! ## Documents as values -/

/-- A layout of values as one of documents. -/
def Json.Layout.ofDocuments (l : Layout Expr.Key Expr.Reference) : Layout Text Empty where
  indent := l.indent
  itemMark := l.itemMark
  keyMark := l.keyMark
  asciiOnly := l.asciiOnly
  enters := fun level d => l.enters level (ofDocument d)
  holds := fun d => l.holds (ofDocument d)

section

variable {l : Layout Expr.Key Expr.Reference}

theorem writeItems_ofItems {items : List Document}
    (h : ∀ item ∈ items, ∀ level,
      writeValue l level (ofDocument item) = writeValue l.ofDocuments level item)
    (level : ℕ) : writeItems l level (ofItems items) = writeItems l.ofDocuments level items := by
  induction items with
  | nil => rw [ofItems, writeItems, writeItems]
  | cons item items ih =>
      obtain ⟨hitem, hitems⟩ := List.forall_mem_cons.1 h
      rw [ofItems, writeItems, writeItems, hitem level, ih hitems]
      rfl

theorem writeEntries_ofEntries {entries : List (Text × Document)}
    (h : ∀ entry ∈ entries, ∀ level,
      writeValue l level (ofDocument entry.2) = writeValue l.ofDocuments level entry.2)
    (level : ℕ) :
    writeEntries l level (ofEntries entries) = writeEntries l.ofDocuments level entries := by
  induction entries with
  | nil => rw [ofEntries, writeEntries, writeEntries]
  | cons entry entries ih =>
      obtain ⟨hentry, hentries⟩ := List.forall_mem_cons.1 h
      rw [ofEntries, writeEntries, writeEntries, hentry level, ih hentries]
      rfl

/-- A document is written alike as a document and as a value. -/
theorem writeValue_ofDocument {d : Document} (hd : d.IsProper) :
    ∀ level, writeValue l level (ofDocument d) = writeValue l.ofDocuments level d := by
  induction hd with
  | null => intro level; rfl
  | bool b => intro level; cases b <;> rfl
  | number n => intro level; rw [ofDocument, writeValue, writeValue]
  | text s => intro level; rw [ofDocument, writeValue, writeValue]; rfl
  | @array items _ ih =>
      intro level
      cases items with
      | nil => rw [ofDocument, ofItems, writeValue, writeValue]; rfl
      | cons item items =>
          obtain ⟨hitem, hitems⟩ := List.forall_mem_cons.1 ih
          rw [ofDocument, ofItems, writeValue, writeValue, hitem, writeItems_ofItems hitems]
          rfl
  | @object entries _ _ ih =>
      intro level
      cases entries with
      | nil => rw [ofDocument, ofEntries, writeValue, writeValue]; rfl
      | cons entry entries =>
          obtain ⟨hentry, hentries⟩ := List.forall_mem_cons.1 ih
          rw [ofDocument, ofEntries, writeValue, writeValue, hentry,
            writeEntries_ofEntries hentries]
          rfl

theorem write_ofDocument {d : Document} (hd : d.IsProper) :
    Json.write l (ofDocument d) = Json.write l.ofDocuments d := by
  have hvalue := @writeValue_ofDocument l d hd 0
  cases d with
  | text s => rfl
  | reference x => exact x.elim
  | _ =>
      rw [ofDocument] at hvalue ⊢
      simp only [Json.write, hvalue]
      rfl

end

section

variable [Limits]

theorem Json.Layout.isIndented_ofDocuments (site : Site) (width : ℕ) :
    (indented site width).ofDocuments.IsIndented width where
  indent := rfl
  itemMark := rfl
  keyMark := rfl
  asciiOnly := rfl

end

/-! ## Saving -/

namespace ResultFile

section

variable [Limits]

/-- **What saving does.** If the results have a text, it is stored; if that succeeds, the log says
where to. -/
theorem runOn_save (file : ResultFile) (action : Text) (host : Host) :
    runOn (file.save action) host =
      match file.text with
      | .error e => (.error e, host)
      | .ok text =>
          match file.store host.now action text host.files with
          | (files, .error e) => (.error e, { host with files := files })
          | (files, .ok path) =>
              (.ok { file with savedTo := some path },
                ({ host with files := files } : Host).record
                  ⟨Log.info, "JSON saved to " ++ path.text⟩) := by
  unfold save
  cases file.text with
  | error e => rfl
  | ok text =>
      cases hstore : file.store host.now action text host.files with
      | mk files outcome =>
          dsimp only
          rw [Hosted.runOn_bind_of_ok (Hosted.runOn_pure text host),
            Hosted.runOn_bind_of_ok (Hosted.runOn_get host), hstore]
          cases outcome <;> rfl

end

/-- A text is stored at the path for the action, in directories that are there or are made. -/
theorem exists_of_store {file : ResultFile} {now : Timestamp} {action text : Text}
    {files written : Files} {path : Files.Path}
    (h : file.store now action text files = (written, .ok path)) :
    path = file.path now action ∧ ∃ made : Files,
      files.makeDirectories file.dir = (made, .ok ()) ∧
        made.write path text = (written, .ok ()) := by
  unfold store at h
  dsimp only at h
  split at h
  · cases h
  · next made hmade =>
      split at h
      · cases h
      · next written' hwrite =>
          obtain ⟨rfl, hpath⟩ := Prod.mk.inj h
          obtain rfl := Except.ok.inj hpath
          exact ⟨rfl, made, hmade, hwrite⟩

/-- The ending of the names of result files. -/
def resultEnding : List CodePoint := (Text.toList ".json")

theorem isEnding_resultEnding : Files.IsEnding resultEnding where
  noSlash := by decide
  long := by decide

theorem endsIn_path (file : ResultFile) (now : Timestamp) (action : Text) :
    EndsIn resultEnding (file.path now action).names :=
  Files.endsIn_child isEnding_resultEnding _ (Text.toList_append _ _)

/-- A place is not both that of a result file and that of a log file. -/
theorem not_endsIn_of_endsIn {names : List Text} (h : EndsIn resultEnding names) :
    ¬EndsIn logEnding names := by
  intro hlog
  have hlast := h.disjoint hlog (by decide) (by decide)
  revert hlast
  decide

section

variable [Limits]

/-- What saving leaves in the file, as it is read, as long as the logger writes to log files only.
-/
theorem exists_read_of_save {file saved : ResultFile} {action : Text} {host after : Host}
    (hlogger : ∀ place, host.logger.WritesTo place → EndsIn logEnding place.names)
    (h : runOn (file.save action) host = (.ok saved, after)) :
    saved.savedTo = some (file.path host.now action) ∧ after.logger = host.logger ∧
      ∃ text, file.text = .ok text ∧
        after.files.read (file.path host.now action) = .ok (Text.joinEndings text) := by
  rw [runOn_save] at h
  split at h
  · cases h
  · next text htext =>
      split at h
      · cases h
      · next written path hstore =>
          obtain ⟨hsaved, rfl⟩ := Prod.mk.inj h
          obtain rfl := Except.ok.inj hsaved
          obtain ⟨rfl, made, -, hwrite⟩ := exists_of_store hstore
          have hkeep := Host.keeps_record { host with files := written }
            ⟨Log.info, "JSON saved to " ++ (file.path host.now action).text⟩
          refine ⟨rfl, Host.record_logger _ _, text, htext,
            Files.read_of_write hwrite hkeep fun place hplace => ?_⟩
          refine Host.get?_record { host with files := written } _ fun hlog => ?_
          exact not_endsIn_of_endsIn (Files.endsIn_locate isEnding_resultEnding hplace
            (endsIn_path file host.now action)) (hlogger place hlog)

/-- Results that were saved are read back as long as the logger writes to log files only, where
there is room for their levels. Where there is not, reading fails for want of room. -/
theorem read_of_save {file saved : ResultFile} {action : Text} {host after : Host}
    {items : List Document} (hresults : file.results = items.map ofDocument)
    (hproper : ∀ item ∈ items, item.IsProper)
    (hlogger : ∀ place, host.logger.WritesTo place → EndsIn logEnding place.names)
    (h : runOn (file.save action) host = (.ok saved, after)) :
    saved.savedTo = some (file.path host.now action) ∧
      ∃ text, after.files.read (file.path host.now action) = .ok text ∧ ∀ room,
        ((Value.array items : Document).levels ≤ room →
          Json.readL room text.toList = .ok (.array (items.map Value.written))) ∧
        (room < (Value.array items : Document).levels →
          ∃ what, Json.readL room text.toList = .error (.tooDeep what)) := by
  obtain ⟨hpath, -, text, htext, hfile⟩ := exists_read_of_save hlogger h
  have hjson : Json.write (Layout.indented .resultFile file.indent).ofDocuments
      (.array items : Document) = .ok text := by
    rw [← write_ofDocument (.array hproper), ofDocument_array, ← hresults]
    exact eq_ok_of_mapError_eq_ok htext
  have hread {room : ℕ} (hroom : (Value.array items : Document).levels ≤ room) :=
    Json.readL_joinEndings_write (Layout.isIndented_ofDocuments .resultFile file.indent)
      (.array hproper) hjson hroom
  refine ⟨hpath, _, hfile, fun room => ⟨fun hroom => ?_, fun hroom => ?_⟩⟩
  · rw [hread hroom, Value.written, Json.writtenItems_eq_map]
  · have hlevels := (Json.levels_written (.array items)).symm
    exact Json.exists_readL_tooDeep (hread (le_refl _)) (hroom.trans_eq hlevels)

end

end ResultFile

/-! ## Outputs -/

/-- The path of the result file of an action. -/
def OutputSettings.resultPath (settings : OutputSettings) (now : Timestamp) (action : Text) :
    Files.Path :=
  ((Files.Path.ofText settings.baseDir).child "json").child
    (action ++ "_" ++ now.resultMark ++ ".json")

theorem OutputSettings.endsIn_resultPath (settings : OutputSettings) (now : Timestamp)
    (action : Text) : EndsIn ResultFile.resultEnding (settings.resultPath now action).names :=
  Files.endsIn_child ResultFile.isEnding_resultEnding _ (Text.toList_append _ _)

namespace Output

/-- Settings that ask for a result file have one. -/
theorem exists_ofSettings {settings : OutputSettings} (h : .json ∈ settings.formats) :
    ∃ output file, ofSettings settings = .ok output ∧ output.file = some file ∧
      file.path = settings.resultPath := by
  refine ⟨⟨if .console ∈ settings.formats then some ⟨settings.indent⟩ else none,
    some { dir := (Files.Path.ofText settings.baseDir).child "json", indent := settings.indent }⟩,
    _, ?_, rfl, rfl⟩
  rw [ofSettings, if_pos h]
  simp

section

variable [Limits]

/-- A result that is written is collected. -/
theorem file_of_write {output written : Output} {result : QueryResult} {dataPath : Option Text}
    (h : (runLogged (output.write result dataPath)).2 = .ok written) :
    written.file = output.file.map fun file => file.add result dataPath := by
  unfold write at h
  cases hconsole : output.console with
  | none =>
      rw [hconsole] at h
      obtain rfl := Except.ok.inj h
      rfl
  | some console =>
      rw [hconsole] at h
      dsimp only at h
      rw [Log.runLogged_bind_pure] at h
      cases hshown : (runLogged (console.write result dataPath)).2 with
      | error e =>
          rw [hshown] at h
          cases h
      | ok u =>
          rw [hshown] at h
          obtain rfl := Except.ok.inj h
          rfl

/-- At the end of an action the results are in their file. -/
theorem exists_read_of_finish {output finished : Output} {file : ResultFile}
    (hfile : output.file = some file) {action : Text} {host after : Host}
    (hlogger : ∀ place, host.logger.WritesTo place → EndsIn logEnding place.names)
    (h : runOn (output.finish action) host = (.ok finished, after)) :
    after.logger = host.logger ∧ ∃ text, file.text = .ok text ∧
      after.files.read (file.path host.now action) = .ok (Text.joinEndings text) := by
  rw [finish, hfile] at h
  obtain ⟨saved, last, hsave, h⟩ := Hosted.exists_of_runOn_bind h
  obtain rfl : last = after := (Prod.mk.inj h).2
  exact (ResultFile.exists_read_of_save hlogger hsave).2

end

end Output

/-! ## Sessions -/

/-- A result file with the host that it is used on. -/
structure Session where
  file : ResultFile
  host : Host

namespace Session

/-- What happens to a result file and its host. -/
inductive Event where
  /-- A result is written, for the document at a path. -/
  | write (query : Text) (value : Document) (dataPath : Option Text)
  /-- An action ends, and the results so far are saved. -/
  | finish (action : Text)
  /-- The log is set up anew. -/
  | setUpLog (setup : Log.Setup)
  /-- Something is logged. -/
  | log (record : Log.Record)
  /-- Time goes by, and the files change. -/
  | elapse (now : Timestamp) (files : Files)

/-- The entry of a result file for a result. -/
def entry (query : Text) (value : Document) (dataPath : Option Text) : Document :=
  .object [("data", (dataPath.map .text).getD .null), ("query", .text query), ("result", value)]

/-- The entry that an event adds, if it writes a result. -/
def Event.entry? : Event → Option Document
  | .write query value dataPath => some (entry query value dataPath)
  | _ => none

/-- The entry that is read back for an event: the result as its text tells it. -/
def Event.readBack? : Event → Option Document
  | .write query value dataPath => some (entry query value.written dataPath)
  | _ => none

/-- Whether a result that an event writes has no key twice in an object. -/
def Event.IsProper : Event → Prop
  | .write _ value _ => value.IsProper
  | _ => True

/-- A result file that nothing was written to, on a host without a log. -/
def fresh (baseDir : Text) (indent : ℕ) (now : Timestamp) (files : Files) : Session where
  file := { dir := (Files.Path.ofText baseDir).child "json", indent := indent }
  host := { now := now, files := files }

/-- What an event leaves. Where results cannot be saved, they stay collected. -/
def step [Limits] (s : Session) : Event → Session
  | .write query value dataPath => { s with file := s.file.add ⟨query, ofDocument value⟩ dataPath }
  | .finish action =>
      match runOn (s.file.save action) s.host with
      | (.ok file, host) => ⟨file, host⟩
      | (.error _, host) => { s with host := host }
  | .setUpLog setup => { s with host := (runOn (Host.setUpLog setup) s.host).2 }
  | .log record => { s with host := s.host.record record }
  | .elapse now files => { s with host := { s.host with now := now, files := files } }

/-- What events leave, one after the other. -/
def run [Limits] (s : Session) (events : List Event) : Session := events.foldl step s

/-- The logger of a session writes to log files only. -/
def LogsApart (s : Session) : Prop :=
  ∀ place, s.host.logger.WritesTo place → EndsIn logEnding place.names

/-- The results of a session are entries, and its logger writes to log files only. -/
structure Invariant (s : Session) (entries : List Document) : Prop where
  results : s.file.results = entries.map ofDocument
  logger : ∀ place, s.host.logger.WritesTo place → EndsIn logEnding place.names

theorem entry_ofDocument (query : Text) (value : Document) (dataPath : Option Text) :
    QueryResult.entry ⟨query, ofDocument value⟩ dataPath =
      ofDocument (entry query value dataPath) := by
  cases dataPath <;> rfl

theorem invariant_fresh (baseDir : Text) (indent : ℕ) (now : Timestamp) (files : Files) :
    (fresh baseDir indent now files).Invariant [] where
  results := rfl
  logger := by
    rintro place ⟨handler, hhandler, -⟩
    cases hhandler

theorem isProper_entry {query : Text} {value : Document} (h : value.IsProper)
    (dataPath : Option Text) : (entry query value dataPath).IsProper := by
  have hkeys : [Text.ofString "data", Text.ofString "query", Text.ofString "result"].Nodup := by
    decide
  refine .object hkeys ?_
  rintro pair hpair
  simp only [List.mem_cons, List.not_mem_nil, or_false] at hpair
  rcases hpair with rfl | rfl | rfl
  · cases dataPath with
    | none => exact .null
    | some path => exact .text path
  · exact .text query
  · exact h

/-- The entries of a session, as their texts tell them. -/
theorem map_written_entries (events : List Event) :
    (events.filterMap Event.entry?).map Value.written = events.filterMap Event.readBack? := by
  have hwritten : ∀ event : Event, event.entry?.map Value.written = event.readBack? := by
    intro event
    cases event with
    | write query value dataPath =>
        cases dataPath <;>
          simp [Event.entry?, Event.readBack?, entry, Value.written, Json.writtenEntries]
    | _ => rfl
  rw [List.map_filterMap]
  exact List.filterMap_congr fun event _ => hwritten event

section

variable [Limits]

/-- An event adds its entry to the results. -/
theorem results_step (s : Session) (event : Event) :
    (s.step event).file.results = s.file.results ++ event.entry?.toList.map ofDocument := by
  cases event with
  | write query value dataPath =>
      change s.file.results ++ [_] = _
      rw [entry_ofDocument]
      rfl
  | finish action =>
      rw [step, ResultFile.runOn_save]
      cases s.file.text with
      | error e => simp [Event.entry?]
      | ok text =>
          dsimp only
          cases s.file.store s.host.now action text s.host.files with
          | mk files outcome => cases outcome <;> simp [Event.entry?]
  | _ => exact (List.append_nil _).symm

/-- A new log has a log file, and where none can be set up the logger stays. -/
theorem LogsApart.setUpLog {s : Session} (h : s.LogsApart) (setup : Log.Setup) :
    (s.step (.setUpLog setup)).LogsApart := by
  intro place hplace
  rw [step, Hosted.runOn_setUpLog] at hplace
  cases hinstall : setup.install s.host.now s.host.files with
  | mk files outcome =>
      rw [hinstall] at hplace
      cases outcome with
      | error e => exact h place hplace
      | ok logger => exact (Log.writesTo_install hinstall hplace).1

/-- Saving does not change the logger. -/
theorem logger_finish (s : Session) (action : Text) :
    (s.step (.finish action)).host.logger = s.host.logger := by
  rw [step, ResultFile.runOn_save]
  cases s.file.text with
  | error e => rfl
  | ok text =>
      dsimp only
      cases s.file.store s.host.now action text s.host.files with
      | mk files outcome =>
          cases outcome with
          | error e => rfl
          | ok path => exact Host.record_logger _ _

/-- After any event the logger goes on writing to log files only. -/
theorem LogsApart.step {s : Session} (h : s.LogsApart) (event : Event) :
    (s.step event).LogsApart := by
  cases event with
  | setUpLog setup => exact h.setUpLog setup
  | finish action =>
      intro place hplace
      rw [logger_finish] at hplace
      exact h place hplace
  | log record =>
      intro place hplace
      change (s.host.record record).logger.WritesTo place at hplace
      rw [Host.record_logger] at hplace
      exact h place hplace
  | _ => exact h

/-- An event adds its entry, and the logger goes on writing to log files only. -/
theorem Invariant.step {s : Session} {entries : List Document} (h : s.Invariant entries)
    (event : Event) : (s.step event).Invariant (entries ++ event.entry?.toList) where
  results := by rw [results_step, h.results, List.map_append]
  logger := LogsApart.step h.logger event

/-- After any events, the results are all entries that the events added, in order. -/
theorem Invariant.run {s : Session} {entries : List Document} (h : s.Invariant entries)
    (events : List Event) :
    (s.run events).Invariant (entries ++ events.filterMap Event.entry?) := by
  induction events generalizing s entries with
  | nil => simpa [Session.run] using h
  | cons event events ih =>
      have hrest := ih (h.step event)
      cases hentry : event.entry? with
      | none => simpa [hentry, List.filterMap_cons, Session.run] using hrest
      | some e => simpa [hentry, List.filterMap_cons, Session.run] using hrest

/-- **Saved results are read back.** Whatever happened to a result file and its host before, if
saving succeeds, then reading the file that it saved to yields one entry for each result that was
written, in order, with the result as its text tells it: every number, text, array and object as it
was, and all outcomes that are not numbers as the one that texts denote. The machine that reads it
may be another one than the one that wrote it; if it has no room for the levels of the results, it
fails for want of room. -/
theorem read_saved (baseDir : Text) (indent : ℕ) (now : Timestamp) (files : Files)
    (events : List Event) (hproper : ∀ event ∈ events, event.IsProper) {action : Text}
    {saved : ResultFile} {after : Host}
    (hsave : runOn (((fresh baseDir indent now files).run events).file.save action)
      ((fresh baseDir indent now files).run events).host = (.ok saved, after)) :
    ∃ path, saved.savedTo = some path ∧ ∀ reader : Limits,
      ((Value.array (events.filterMap Event.entry?) : Document).levels ≤ reader.documentLevels →
        (runLogged (@readDocument reader after.files path)).2 =
          .ok (.array (events.filterMap Event.readBack?))) ∧
      (reader.documentLevels < (Value.array (events.filterMap Event.entry?) : Document).levels →
        ∃ what, (runLogged (@readDocument reader after.files path)).2 =
          .error (.json (.tooDeep what))) := by
  have hinvariant := (invariant_fresh baseDir indent now files).run events
  rw [List.nil_append] at hinvariant
  have hentries : ∀ e ∈ events.filterMap Event.entry?, e.IsProper := by
    intro e he
    obtain ⟨event, hevent, hentry⟩ := List.mem_filterMap.1 he
    cases event with
    | write query value dataPath =>
        obtain rfl := Option.some.inj hentry
        exact isProper_entry (hproper _ hevent) dataPath
    | _ => cases hentry
  obtain ⟨hpath, text, hfile, hread⟩ :=
    ResultFile.read_of_save hinvariant.results hentries hinvariant.logger hsave
  rw [map_written_entries] at hread
  refine ⟨_, hpath, fun reader => ⟨fun hroom => ?_, fun hroom => ?_⟩⟩
  · exact readDocument_iff.2 ⟨text, hfile, (hread _).1 hroom⟩
  · obtain ⟨what, hdeep⟩ := (hread _).2 hroom
    exact ⟨what, readDocument_of_readL_error hfile hdeep⟩

end

/-- A time on a spring evening. -/
def evening : Timestamp := ⟨2024, 5, 6, 21, 8, 9⟩

/-- An object with an array, a negative zero, what is not a number, and a text with a line feed. -/
def tricky : Document :=
  .object [("b\x22", .array [.number (.int (-7)), .array [], .object []]),
    ("a", .number (.float (-0.0))), ("c", .number (.undefined [1])), ("d", .text "x\n\u2028")]

/-- Results before and after an action that saves them to the same file, with a log file. -/
def mixedEvents : List Event :=
  [.setUpLog { action := some "run", toFile := true }, .write "@" tricky (some "in.json"),
    .finish "run", .log ⟨Log.info, "once more"⟩, .write "[0]" .null none]

theorem isProper_tricky : tricky.IsProper := by
  have hkeys : [Text.ofString "b\x22", Text.ofString "a", Text.ofString "c",
      Text.ofString "d"].Nodup := by
    decide
  refine .object hkeys ?_
  simp only [List.forall_mem_cons]
  refine ⟨.array ?_, .number _, .number _, .text _, by simp⟩
  simp only [List.forall_mem_cons]
  exact ⟨.number _, .array (by simp), .object (by simp) (by simp), by simp⟩

theorem read_saved_mixedEvents :
    letI := Limits.ordinary
    ∃ saved after path,
      runOn (((fresh "out" 2 evening {}).run mixedEvents).file.save "run")
        ((fresh "out" 2 evening {}).run mixedEvents).host = (.ok saved, after) ∧
      saved.savedTo = some path ∧
      (runLogged (readDocument after.files path)).2 =
        .ok (.array [entry "@" tricky.written (some "in.json"), entry "[0]" .null none]) := by
  have hproper : ∀ event ∈ mixedEvents, event.IsProper := by
    simp only [mixedEvents, List.forall_mem_cons]
    exact ⟨trivial, isProper_tricky, trivial, trivial, .null, by simp⟩
  let limits := Limits.ordinary
  have hok : (runOn (((fresh "out" 2 evening {}).run mixedEvents).file.save "run")
      ((fresh "out" 2 evening {}).run mixedEvents).host).1.isOk = true := by
    decide +kernel
  cases hsave : runOn (((fresh "out" 2 evening {}).run mixedEvents).file.save "run")
      ((fresh "out" 2 evening {}).run mixedEvents).host with
  | mk outcome after =>
      cases outcome with
      | error e =>
          rw [hsave] at hok
          cases hok
      | ok saved =>
          obtain ⟨path, hpath, hread⟩ := read_saved "out" 2 evening {} mixedEvents hproper hsave
          exact ⟨saved, after, path, rfl, hpath, (hread limits).1 (by decide +kernel)⟩

end Session

end Winnow
