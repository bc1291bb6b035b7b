import Winnow.Proofs.Log.Delivery
import Winnow.Proofs.Output.ResultFile
import Winnow.Proofs.Text.Lines

/-!
# Results on their way out

What the writers tell the log about a result, and what they leave in the files.

* `shownLines` — the lines in which the console shows a result.
* `splitLines_text` — the text of a result is cut into these lines.
* `pathRecords`, `infoRecords` — the records of a path and of lines.
* `Output.tells_write_of_ok`, `Output.tells_write_of_error` — what writing a result tells the log.
* `Host.Stored` — a host on which a text was stored; `ResultFile.Unsaved` — what is left where
  results are not saved.
* `Output.finish_cases` — what the end of an action leaves.
* `OutputSettings.Saved`, `OutputSettings.Spoilt` — the result file that the settings ask for, whole
  or spoilt; `OutputSettings.finish_cases` — the end of an action with one result.
-/

namespace Winnow

open Hosted (runOn)
open Files (EndsIn Location OnlyDirectories SameBut)
open Host (Told)
open Log (Tells logEnding)

/-! ## Lines -/

/-- The lines in which the console shows a query with the JSON text of its value: the query is cut
by itself, and then the JSON text. -/
def shownLines (query json : Text) : List Text :=
  Text.splitLines ("Query: " ++ query ++ "\n") ++ Text.splitLines json

/-- A query without line ends is shown on one line. -/
theorem shownLines_of_isLine {query : Text} (h : Text.IsLine query) (json : Text) :
    shownLines query json = ("Query: " ++ query) :: Text.splitLines json := by
  have hquery : ∀ c ∈ (Text.toList "Query: "), Text.isLineEnd c = false := by
    simp [Text.isLineEnd]
  have hline : Text.IsLine ("Query: " ++ query) := by
    intro c hc
    rw [Text.toList_append] at hc
    rcases List.mem_append.1 hc with hc | hc
    · exact hquery c hc
    · exact h c hc
  rw [shownLines, Text.splitLines_line hline, List.singleton_append]

/-- The text of a result is cut into the lines of the query and those of the JSON text. -/
theorem splitLines_text [Limits] {result : QueryResult} {indent : ℕ} {text : Text}
    (h : result.text indent = .ok text) :
    ∃ json, Json.write (.indented .console indent) result.value = .ok json ∧
      Text.splitLines text = shownLines result.query json := by
  obtain ⟨lines, hlines, htext⟩ := exists_of_bind_eq_ok h
  obtain ⟨json, hjson, hlist⟩ := exists_of_bind_eq_ok hlines
  obtain rfl := Except.ok.inj hlist
  obtain rfl := Except.ok.inj htext
  exact ⟨json, hjson, Text.splitLines_intercalate _ fun line => Text.isLine_of_mem_splitLines⟩

/-! ## Writing -/

/-- The records of lines. -/
def infoRecords (lines : List Text) : List Log.Record := lines.map fun line => ⟨Log.info, line⟩

theorem isRoutine_of_mem_infoRecords {lines : List Text} {r : Log.Record}
    (h : r ∈ infoRecords lines) : r.IsRoutine := by
  obtain ⟨line, -, rfl⟩ := List.mem_map.1 h
  exact .inr rfl

/-- The path of a document is told if there is one. -/
def Console.writePath (dataPath : Option Text) : Log.Logged OutputError Unit :=
  if dataPath.getD "" ≠ "" then Log.write Log.info ("Data: " ++ dataPath.getD "") else pure ()

/-- The lines of a text are told one by one. -/
def Console.writeLines (text : Text) : Log.Logged OutputError Unit := do
  for line in Text.splitLines text do
    Log.write Log.info line

/-- What is told of the path of a document. -/
def pathRecords (dataPath : Option Text) : List Log.Record :=
  if dataPath.getD "" ≠ "" then infoRecords ["Data: " ++ dataPath.getD ""] else []

theorem isRoutine_of_mem_pathRecords {dataPath : Option Text} {r : Log.Record}
    (h : r ∈ pathRecords dataPath) : r.IsRoutine := by
  unfold pathRecords at h
  split_ifs at h
  · exact isRoutine_of_mem_infoRecords h
  · cases h

theorem Console.tells_writePath (dataPath : Option Text) :
    Tells (writePath dataPath) (pathRecords dataPath) (.ok ()) := by
  unfold writePath pathRecords
  split_ifs
  · exact Log.tells_write _ _
  · exact Log.tells_pure ()

theorem Console.tells_writeLines (text : Text) :
    Tells (writeLines text) (infoRecords (Text.splitLines text)) (.ok ()) := by
  rw [← List.append_nil (infoRecords _)]
  exact (Log.tells_forIn Log.info (Text.splitLines text)).bind (Log.tells_pure _)

/-- The writers after a result was collected. -/
def Output.collect (output : Output) (result : QueryResult) (dataPath : Option Text) : Output :=
  { output with file := output.file.map fun file => file.add result dataPath }

section

variable [Limits]

theorem Console.write_eq (console : Console) (result : QueryResult) (dataPath : Option Text) :
    console.write result dataPath = (do
      writePath dataPath
      match result.text console.indent with
      | .error cause => throw (.write cause)
      | .ok text => writeLines text) := by
  unfold write writePath
  split_ifs <;> rfl

/-- A result without a text: the console tells the path and fails. -/
theorem Console.tells_write_of_error {console : Console} {result : QueryResult}
    {cause : Json.WriteError} (h : result.text console.indent = .error cause)
    (dataPath : Option Text) :
    Tells (console.write result dataPath) (pathRecords dataPath) (.error (.write cause)) := by
  rw [write_eq, h, ← List.append_nil (pathRecords dataPath)]
  exact (tells_writePath dataPath).bind (Log.tells_throw _)

/-- A result with a text: the console tells the path and then the lines of the text. -/
theorem Console.tells_write_of_ok {console : Console} {result : QueryResult} {text : Text}
    (h : result.text console.indent = .ok text) (dataPath : Option Text) :
    Tells (console.write result dataPath)
      (pathRecords dataPath ++ infoRecords (Text.splitLines text)) (.ok ()) := by
  rw [write_eq, h]
  exact (tells_writePath dataPath).bind (tells_writeLines text)

theorem Output.write_eq (output : Output) (result : QueryResult) (dataPath : Option Text) :
    output.write result dataPath =
      match output.console with
      | none => pure (output.collect result dataPath)
      | some console =>
          console.write result dataPath >>= fun _ => pure (output.collect result dataPath) := by
  obtain ⟨console, file⟩ := output
  cases console <;> rfl

/-- Where the console cannot show a result, nothing is collected. -/
theorem Output.tells_write_of_error {output : Output} {console : Console}
    (hconsole : output.console = some console) {result : QueryResult} {cause : Json.WriteError}
    (h : result.text console.indent = .error cause) (dataPath : Option Text) :
    Tells (output.write result dataPath) (pathRecords dataPath) (.error (.write cause)) := by
  rw [Output.write_eq, hconsole]
  exact (Console.tells_write_of_error h dataPath).bind_error

/-- Where the console shows a result, the result is collected after that. -/
theorem Output.tells_write_of_ok {output : Output} {console : Console}
    (hconsole : output.console = some console) {result : QueryResult} {text : Text}
    (h : result.text console.indent = .ok text) (dataPath : Option Text) :
    Tells (output.write result dataPath)
      (pathRecords dataPath ++ infoRecords (Text.splitLines text))
      (.ok (output.collect result dataPath)) := by
  rw [Output.write_eq, hconsole, ← List.append_nil (pathRecords dataPath ++ _)]
  exact (Console.tells_write_of_ok h dataPath).bind (Log.tells_pure _)

/-- **What writing a result tells the log**, and that the result is collected. Where it is shown on
the console, its lines come last. -/
theorem Output.exists_tells_write (output : Output) (result : QueryResult)
    (dataPath : Option Text) :
    ∃ records : List Log.Record, (∀ r ∈ records, r.IsRoutine) ∧
      ((∃ e, Tells (output.write result dataPath) records (.error e)) ∨
        Tells (output.write result dataPath) records (.ok (output.collect result dataPath)) ∧
          ∀ console, output.console = some console → ∃ before json,
            Json.write (.indented .console console.indent) result.value = .ok json ∧
              records = before ++ infoRecords (shownLines result.query json)) := by
  cases hconsole : output.console with
  | none =>
      rw [Output.write_eq, hconsole]
      refine ⟨[], by simp, .inr ⟨Log.tells_pure _, ?_⟩⟩
      intro console h
      cases h
  | some console =>
      cases htext : result.text console.indent with
      | error cause =>
          exact ⟨pathRecords dataPath, fun r => isRoutine_of_mem_pathRecords,
            .inl ⟨_, tells_write_of_error hconsole htext dataPath⟩⟩
      | ok text =>
          obtain ⟨json, hjson, hlines⟩ := splitLines_text htext
          refine ⟨_, ?_, .inr ⟨tells_write_of_ok hconsole htext dataPath, ?_⟩⟩
          · intro r hr
            rcases List.mem_append.1 hr with hr | hr
            · exact isRoutine_of_mem_pathRecords hr
            · exact isRoutine_of_mem_infoRecords hr
          · intro console' h
            obtain rfl := Option.some.inj h
            exact ⟨pathRecords dataPath, json, hjson, by rw [hlines]⟩

end

/-! ## The end of an action -/

/-- A text was stored at a path, and the log says so; nothing else changed but new directories and
the files of the logger. -/
structure Host.Stored (host after : Host) (path : Files.Path) (text : String) : Prop where
  told : Told host after [⟨Log.info, "JSON saved to " ++ path.text⟩]
  holds : after.files.Holds path text
  same : SameBut (fun l => host.logger.WritesTo l ∨ after.files.locate path = .ok l)
    host.files after.files

/-- Writing a text to a result file, and logging it, stores the text: the logger writes to log files
only. -/
theorem Host.stored_record {host : Host}
    (hlogger : ∀ place, host.logger.WritesTo place → EndsIn logEnding place.names)
    {path : Files.Path} (hpath : EndsIn ResultFile.resultEnding path.names) {made written : Files}
    (hmade : OnlyDirectories host.files made) {text : Text}
    (hwrite : made.write path text = (written, .ok ())) :
    ∃ string, text = Text.ofString string ∧
      host.Stored (({ host with files := written } : Host).record
        ⟨Log.info, "JSON saved to " ++ path.text⟩) path string := by
  obtain ⟨place, string, htarget, rfl, -, rfl⟩ := Files.write_eq_ok_iff.1 hwrite
  obtain ⟨hlocate, hdirectory⟩ := Files.eq_of_target htarget
  have hwritten := Files.sameBut_put_file hdirectory string
  let written : Files := made.put place (.file string)
  have hlogged := Host.sameBut_foldl_record { host with files := written }
    [⟨Log.info, "JSON saved to " ++ path.text⟩]
  have hlast := Files.locate_of_keeps (hwritten.keeps.trans hlogged.keeps) hlocate
  have hplace : EndsIn ResultFile.resultEnding place.names :=
    Files.endsIn_locate ResultFile.isEnding_resultEnding hlocate hpath
  have hrooms : written.rooms = host.files.rooms := hwritten.keeps.rooms.trans hmade.keeps.rooms
  refine ⟨string, rfl, (Told.files host hrooms).trans (Told.record _ _), ⟨place, hlast, ?_⟩, ?_⟩
  · rw [Host.get?_record]
    · exact Files.get?_put_file hdirectory string
    · intro hlog
      exact ResultFile.not_endsIn_of_endsIn hplace (hlogger place hlog)
  · apply hmade.sameBut.trans
    refine SameBut.trans (hwritten.mono ?_) (hlogged.mono fun l hl => .inl hl)
    rintro l rfl
    exact .inr hlast

namespace ResultFile

/-- Storing a text makes directories, and then the file at the path for the action. -/
theorem store_cases (file : ResultFile) (now : Timestamp) (action text : Text) (files : Files) :
    (∃ e left, file.store now action text files = (left, .error e) ∧
        (OnlyDirectories files left ∨ Files.Spoilt (file.path now action) text files left)) ∨
      ∃ made written, file.store now action text files = (written, .ok (file.path now action)) ∧
        OnlyDirectories files made ∧
        made.write (file.path now action) text = (written, .ok ()) := by
  have honly := Files.onlyDirectories_makeDirectories files file.dir
  unfold store
  cases hmade : files.makeDirectories file.dir with
  | mk made outcome =>
      rw [hmade] at honly
      cases outcome with
      | error cause => exact .inl ⟨_, made, rfl, .inl honly⟩
      | ok u =>
          cases hwrite : made.write (file.path now action) text with
          | mk written outcome =>
              cases outcome with
              | error cause =>
                  exact .inl ⟨.file cause, written, by simp [hwrite],
                    honly.cases_of_write_error hwrite⟩
              | ok u => exact .inr ⟨made, written, by simp [hwrite], honly, hwrite⟩

section

variable [Limits]

/-- What is left where results are not saved: nothing new but directories, or the beginning of their
text in the file for it. -/
inductive Unsaved (file : ResultFile) (path : Files.Path) (files later : Files) : Prop
  | untouched (h : OnlyDirectories files later)
  | spoilt {text : Text} (htext : file.text = .ok text) (h : Files.Spoilt path text files later)

theorem Unsaved.rooms {file : ResultFile} {path : Files.Path} {files later : Files}
    (h : file.Unsaved path files later) : later.rooms = files.rooms := by
  cases h with
  | untouched h => exact h.keeps.rooms
  | spoilt _ h => exact h.same.keeps.rooms

/-- **Saving** either fails and leaves nothing new but directories, or a file that is spoilt, or it
stores the text of the results. -/
theorem save_cases (file : ResultFile) (action : Text) {host : Host}
    (hlogger : ∀ place, host.logger.WritesTo place → EndsIn logEnding place.names) :
    (∃ e after, runOn (file.save action) host = (.error e, after) ∧ Told host after [] ∧
        file.Unsaved (file.path host.now action) host.files after.files) ∨
      ∃ saved after text, runOn (file.save action) host = (.ok saved, after) ∧
        file.text = .ok (Text.ofString text) ∧
        host.Stored after (file.path host.now action) text := by
  rw [runOn_save]
  cases htext : file.text with
  | error e => exact .inl ⟨e, host, rfl, .refl host, .untouched (.refl host.files)⟩
  | ok text =>
      rcases file.store_cases host.now action text host.files with
        ⟨e, made, hstore, hleft⟩ | ⟨made, written, hstore, honly, hwrite⟩
      · left
        have hunsaved : file.Unsaved (file.path host.now action) host.files made :=
          hleft.elim .untouched (.spoilt htext)
        refine ⟨e, { host with files := made }, ?_, .files host hunsaved.rooms, hunsaved⟩
        simp [hstore]
      · right
        obtain ⟨string, rfl, hstored⟩ :=
          Host.stored_record hlogger (file.endsIn_path host.now action) honly hwrite
        refine ⟨{ file with savedTo := some (file.path host.now action) }, _, string, ?_, rfl,
          hstored⟩
        simp [hstore]

end

end ResultFile

/-- **The end of an action** either fails in saving, or stores the text of what was collected, if
there is a file for it. -/
theorem Output.finish_cases [Limits] (output : Output) (action : Text) {host : Host}
    (hlogger : ∀ place, host.logger.WritesTo place → EndsIn logEnding place.names) :
    (∃ file e after, output.file = some file ∧
        runOn (output.finish action) host = (.error e, after) ∧ Told host after [] ∧
        file.Unsaved (file.path host.now action) host.files after.files) ∨
      ∃ finished after, runOn (output.finish action) host = (.ok finished, after) ∧
        (output.file = none → after = host) ∧
        ∀ file, output.file = some file →
          ∃ text, file.text = .ok (Text.ofString text) ∧
            host.Stored after (file.path host.now action) text := by
  unfold finish
  cases hfile : output.file with
  | none =>
      right
      refine ⟨output, host, rfl, fun _ => rfl, ?_⟩
      intro file h
      cases h
  | some file =>
      dsimp only
      rcases file.save_cases action hlogger with
        ⟨e, after, hsave, htold, hunsaved⟩ | ⟨saved, after, text, hsave, htext, hstored⟩
      · exact .inl ⟨file, e, after, rfl, Hosted.runOn_bind_of_error hsave, htold, hunsaved⟩
      · right
        refine ⟨_, after, Hosted.runOn_bind_of_ok hsave, by simp, ?_⟩
        intro file' h
        obtain rfl := Option.some.inj h
        exact ⟨text, htext, hstored⟩

/-! ## The writers of settings -/

/-- The result file of settings that ask for one, with nothing in it so far. -/
def OutputSettings.resultFile (settings : OutputSettings) : ResultFile where
  dir := (Files.Path.ofText settings.baseDir).child "json"
  indent := settings.indent

/-- The writers that the settings ask for. -/
def OutputSettings.writers (settings : OutputSettings) : Output where
  console := if .console ∈ settings.formats then some ⟨settings.indent⟩ else none
  file := if .json ∈ settings.formats then some settings.resultFile else none

theorem Output.eq_writers_of_ofSettings {settings : OutputSettings} {output : Output}
    (h : ofSettings settings = .ok output) : output = settings.writers := by
  have hcases : ofSettings settings =
      if settings.writers.console.isNone && settings.writers.file.isNone then .error .noWriters
      else .ok settings.writers := rfl
  rw [hcases] at h
  split_ifs at h
  exact (Except.ok.inj h).symm

section

variable [Limits]

/-- The text of one result stands in the result file, if the settings ask for one, and no other
files changed but those of the logger. -/
structure OutputSettings.Saved (settings : OutputSettings) (action : Text) (entry : Item)
    (host last : Host) : Prop where
  holds : .json ∈ settings.formats → ∃ text,
    Json.write (.indented .resultFile settings.indent) (.array [entry]) =
        .ok (Text.ofString text) ∧
      last.files.Holds (settings.resultPath host.now action) text
  same : SameBut (fun l => host.logger.WritesTo l ∨
    .json ∈ settings.formats ∧ last.files.locate (settings.resultPath host.now action) = .ok l)
    host.files last.files

/-- What was logged before a result was saved does not count. -/
theorem OutputSettings.Saved.of_tells {ε α : Type} {x : Hosted ε α} {outcome : Except ε α}
    {records : List Log.Record} {settings : OutputSettings} {action : Text} {entry : Item}
    {host after last : Host} (hx : Hosted.Tells x host records outcome after)
    (h : settings.Saved action entry after last) : settings.Saved action entry host last := by
  have hlater := h.same
  rw [hx.told.logger, hx.told.now] at hlater
  refine ⟨?_, (hx.same.mono fun l hl => .inl hl).trans hlater⟩
  rw [← hx.told.now]
  exact h.holds

/-- The result file that the settings ask for is spoilt: it did not take the text of one result as a
whole. No other files changed but those of the logger. -/
structure OutputSettings.Spoilt (settings : OutputSettings) (action : Text) (entry : Item)
    (host last : Host) : Prop where
  asked : .json ∈ settings.formats
  cut : ∃ text, Json.write (.indented .resultFile settings.indent) (.array [entry]) = .ok text ∧
    last.files.HoldsCut (settings.resultPath host.now action) text
  same : SameBut (fun l => host.logger.WritesTo l ∨
    last.files.locate (settings.resultPath host.now action) = .ok l) host.files last.files

/-- What was logged before a result file was spoilt does not count. -/
theorem OutputSettings.Spoilt.of_tells {ε α : Type} {x : Hosted ε α} {outcome : Except ε α}
    {records : List Log.Record} {settings : OutputSettings} {action : Text} {entry : Item}
    {host after last : Host} (hx : Hosted.Tells x host records outcome after)
    (h : settings.Spoilt action entry after last) : settings.Spoilt action entry host last := by
  have hlater := h.same
  rw [hx.told.logger, hx.told.now] at hlater
  refine ⟨h.asked, ?_, (hx.same.mono fun l hl => .inl hl).trans hlater⟩
  rw [← hx.told.now]
  exact h.cut

/-- **The end of an action with one result** fails and leaves nothing new but directories, or a
result file that is spoilt, or it saves the result. -/
theorem OutputSettings.finish_cases (settings : OutputSettings) (action : Text)
    (result : QueryResult) (dataPath : Option Text) {host : Host}
    (hlogger : ∀ place, host.logger.WritesTo place → EndsIn logEnding place.names) :
    (∃ e last, runOn ((settings.writers.collect result dataPath).finish action) host =
          (.error e, last) ∧ Told host last [] ∧
        (OnlyDirectories host.files last.files ∨
          settings.Spoilt action (result.entry dataPath) host last)) ∨
      ∃ finished records last,
        runOn ((settings.writers.collect result dataPath).finish action) host =
          (.ok finished, last) ∧
        (∀ r ∈ records, r.IsRoutine) ∧ Told host last records ∧
        settings.Saved action (result.entry dataPath) host last := by
  rcases (settings.writers.collect result dataPath).finish_cases action hlogger with
    ⟨file, e, last, hfile, hrun, htold, hunsaved⟩ | ⟨finished, last, hrun, hnone, hsome⟩
  · refine .inl ⟨e, last, hrun, htold, ?_⟩
    by_cases hjson : .json ∈ settings.formats
    · obtain rfl : settings.resultFile.add result dataPath = file := by
        simpa [Output.collect, writers, hjson] using hfile
      cases hunsaved with
      | untouched h => exact .inl h
      | spoilt htext h =>
          exact .inr ⟨hjson, ⟨_, eq_ok_of_mapError_eq_ok htext, h.cut⟩,
            h.same.mono fun l hl => .inr hl⟩
    · simp [Output.collect, writers, hjson] at hfile
  · right
    by_cases hjson : .json ∈ settings.formats
    · obtain ⟨text, htext, hstored⟩ := hsome _ (by simp [Output.collect, writers, hjson]; rfl)
      refine ⟨finished, _, last, hrun, ?_, hstored.told, fun _ => ⟨text, ?_, hstored.holds⟩, ?_⟩
      · simp [Log.Record.IsRoutine]
      · exact eq_ok_of_mapError_eq_ok htext
      · apply hstored.same.mono
        rintro l (hl | hl)
        · exact .inl hl
        · exact .inr ⟨hjson, hl⟩
    · obtain rfl := hnone (by simp [Output.collect, writers, hjson])
      exact ⟨finished, [], last, hrun, by simp, .refl last, fun h => absurd h hjson,
        .refl last.files⟩

end

end Winnow
