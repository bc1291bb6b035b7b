import Winnow.Proofs.Json.Writable
import Winnow.Proofs.Output.Writers

/-!
# The writers agree

Results are written one after the other, and some cannot be. Whatever the results are, the ones that
stand in the list for the result file are the ones whose lines the console told the log.

* `Output.Job`, `Output.Turn` — a result to be written, and what came of it.
* `Output.writeEach` — one writer after the other; `Output.run_writeEach` — all of them write, or
  none.
* `Output.turn`, `Output.after` — one result; `Output.turns`, `Output.afterAll` — one after the
  other.
* `Turn.IsShown` — all lines of a result were told.
* `Output.collected_afterAll` — the list after any number of results.
* `Output.exists_mem_turns` — every turn was taken by the same console.
* `Output.Accord` — the list and the log are about the same results; `writers_agree`.
-/

namespace Winnow

open Log (Tells)
open Winnow.Expr.Item (StandsIn IsWordless Unwritable)

/-- A result has a text unless its value has none. -/
theorem QueryResult.exists_text_error_iff [Limits] {result : QueryResult} {indent : ℕ} :
    (∃ e, result.text indent = .error e) ↔ Unwritable .console indent result.value := by
  rw [← Json.exists_write_error_iff, exists_error_iff, exists_error_iff, not_iff_not]
  simp only [text, lines, exists_bind_ok_iff]
  constructor
  · rintro ⟨lines, hlines, -⟩
    obtain ⟨json, hjson, -⟩ := exists_of_bind_eq_ok hlines
    exact ⟨json, hjson⟩
  · rintro ⟨json, hjson⟩
    exact ⟨_, by rw [hjson, ok_bind]; rfl, _, rfl⟩

namespace Output

/-! ## One result -/

/-- A result to be written, with the path of its document. -/
structure Job where
  result : QueryResult
  dataPath : Option Text

/-- A job, what the log was told in the course of it, and whether it was done. -/
structure Turn where
  job : Job
  told : List Log.Record
  done : Bool

/-- What is collected of a job. -/
def Job.entry (job : Job) : Item := job.result.entry job.dataPath

/-- Writing changes the writers and the log, and what was done stays done when something fails. -/
abbrev Writing := ExceptT OutputError (StateM (Output × List Log.Record))

/-- What is logged in the course of writing joins what was logged before. -/
def Writing.ofLogged (x : Log.Logged OutputError Unit) : Writing Unit := ExceptT.mk fun s =>
  let (outcome, records) := x.run.run s.2
  (outcome, (s.1, records))

theorem Writing.run_ofLogged (x : Log.Logged OutputError Unit) (output : Output)
    (before : List Log.Record) :
    (Writing.ofLogged x).run.run (output, before) =
      ((x.run.run before).1, (output, (x.run.run before).2)) := rfl

section

variable [Limits]

/-- One writer after the other: the console shows a result, and then it is collected. -/
def writeEach (job : Job) : Writing Unit := do
  let s ← get
  if let some console := s.1.console then
    Writing.ofLogged (console.write job.result job.dataPath)
  modify fun s => (s.1.collect job.result job.dataPath, s.2)

/-- **A result is written by all writers or by none**: where writing fails, the writers stay as they
are. -/
theorem run_writeEach (output : Output) (job : Job) (before : List Log.Record) :
    (writeEach job).run.run (output, before) =
      match (output.write job.result job.dataPath).run.run before with
      | (.ok next, records) => (.ok (), (next, records))
      | (.error e, records) => (.error e, (output, records)) := by
  obtain ⟨console, file⟩ := output
  cases console with
  | none => rfl
  | some console =>
      change (Writing.ofLogged (console.write job.result job.dataPath) >>= fun _ =>
        modify fun s => (s.1.collect job.result job.dataPath, s.2)).run.run
          (⟨some console, file⟩, before) = _
      rw [write_eq, ExceptT.run_bind, StateT.run_bind]
      dsimp only
      rw [ExceptT.run_bind, StateT.run_bind, Writing.run_ofLogged]
      cases (console.write job.result job.dataPath).run.run before with
      | mk outcome records => cases outcome <;> rfl

/-- What comes of writing a result. -/
def turn (output : Output) (job : Job) : Turn :=
  let written := (writeEach job).run.run (output, [])
  ⟨job, written.2.2, written.1.isOk⟩

/-- The writers after a result was to be written. -/
def after (output : Output) (job : Job) : Output := ((writeEach job).run.run (output, [])).2.1

/-- All lines of a result were told after the path of its document, and nothing else. -/
def Turn.IsShown (indent : ℕ) (t : Turn) : Prop :=
  ∃ text, t.job.result.text indent = .ok text ∧
    t.told = pathRecords t.job.dataPath ++ infoRecords (Text.splitLines text)

section

variable {output : Output} {console : Console}

theorem turn_of_error (hconsole : output.console = some console) {job : Job}
    {cause : Json.WriteError} (h : job.result.text console.indent = .error cause) :
    output.turn job = ⟨job, pathRecords job.dataPath, false⟩ ∧ output.after job = output := by
  have hwritten := run_writeEach output job []
  rw [tells_write_of_error hconsole h job.dataPath []] at hwritten
  rw [turn, after, hwritten]
  exact ⟨rfl, rfl⟩

theorem turn_of_ok (hconsole : output.console = some console) {job : Job} {text : Text}
    (h : job.result.text console.indent = .ok text) :
    output.turn job =
        ⟨job, pathRecords job.dataPath ++ infoRecords (Text.splitLines text), true⟩ ∧
      output.after job = output.collect job.result job.dataPath := by
  have hwritten := run_writeEach output job []
  rw [tells_write_of_ok hconsole h job.dataPath []] at hwritten
  rw [turn, after, hwritten]
  exact ⟨rfl, rfl⟩

/-- **One result is shown and collected, or neither.** -/
theorem turn_cases (hconsole : output.console = some console) (job : Job) :
    ((output.turn job).done = true ∧ (output.turn job).IsShown console.indent ∧
        output.after job = output.collect job.result job.dataPath) ∨
      (output.turn job).done = false ∧ (output.turn job).told = pathRecords job.dataPath ∧
        Unwritable .console console.indent job.result.value ∧ output.after job = output := by
  cases htext : job.result.text console.indent with
  | error cause =>
      obtain ⟨hturn, hafter⟩ := turn_of_error hconsole htext
      rw [hturn]
      exact .inr ⟨rfl, rfl, QueryResult.exists_text_error_iff.1 ⟨cause, htext⟩, hafter⟩
  | ok text =>
      obtain ⟨hturn, hafter⟩ := turn_of_ok hconsole htext
      rw [hturn]
      exact .inl ⟨rfl, ⟨text, htext, rfl⟩, hafter⟩

/-- A result that is shown is a writable one. -/
theorem Turn.IsShown.not_unwritable {indent : ℕ} {t : Turn} (h : t.IsShown indent) :
    ¬Unwritable .console indent t.job.result.value := by
  obtain ⟨text, htext, -⟩ := h
  rw [← QueryResult.exists_text_error_iff]
  rintro ⟨e, he⟩
  rw [he] at htext
  cases htext

theorem console_after (hconsole : output.console = some console) (job : Job) :
    (output.after job).console = some console := by
  rcases turn_cases hconsole job with ⟨-, -, hafter⟩ | ⟨-, -, -, hafter⟩
  · rw [hafter]
    exact hconsole
  · rw [hafter, hconsole]

end

/-! ## One after the other -/

/-- What comes of writing results one after the other. -/
def turns : Output → List Job → List Turn
  | _, [] => []
  | output, job :: jobs => output.turn job :: (output.after job).turns jobs

/-- The writers after some results. -/
def afterAll (output : Output) (jobs : List Job) : Output := jobs.foldl after output

section

variable {output : Output} {console : Console}

/-- Every job has its turn. -/
theorem map_job_turns (output : Output) (jobs : List Job) :
    (output.turns jobs).map Turn.job = jobs := by
  induction jobs generalizing output with
  | nil => rfl
  | cons job jobs ih =>
      rw [turns, List.map_cons, ih]
      rfl

/-- The turns of the first jobs are the first turns. -/
theorem turns_take (output : Output) (jobs : List Job) (n : ℕ) :
    output.turns (jobs.take n) = (output.turns jobs).take n := by
  induction jobs generalizing output n with
  | nil => simp [turns]
  | cons job jobs ih =>
      cases n with
      | zero => rfl
      | succ n => rw [List.take_succ_cons, turns, turns, List.take_succ_cons, ih]

/-- A turn is one of the same console, whatever was written before. -/
theorem exists_mem_turns (hconsole : output.console = some console) {jobs : List Job} {t : Turn}
    (ht : t ∈ output.turns jobs) :
    ∃ before : Output, before.console = some console ∧ t = before.turn t.job := by
  induction jobs generalizing output with
  | nil => cases ht
  | cons job jobs ih =>
      rcases List.mem_cons.1 ht with rfl | ht
      · exact ⟨output, hconsole, rfl⟩
      · exact ih (console_after hconsole job) ht

/-- **What is collected**: the results that were done, in order, after those that were there. -/
theorem collected_afterAll (hconsole : output.console = some console) {file : ResultFile}
    (hfile : output.file = some file) (jobs : List Job) :
    ∃ last, (output.afterAll jobs).file = some last ∧ last.results =
      file.results ++ ((output.turns jobs).filter Turn.done).map fun t => t.job.entry := by
  induction jobs generalizing output file with
  | nil => exact ⟨file, hfile, by simp [turns]⟩
  | cons job jobs ih =>
      have hnext := console_after hconsole job
      rcases turn_cases hconsole job with ⟨hdone, -, hafter⟩ | ⟨hdone, -, -, hafter⟩
      · have hcollected : (output.after job).file = some (file.add job.result job.dataPath) := by
          rw [hafter, collect, hfile, Option.map_some]
        obtain ⟨last, hlast, hresults⟩ := ih hnext hcollected
        refine ⟨last, hlast, ?_⟩
        rw [hresults, turns, List.filter_cons_of_pos hdone, List.map_cons, ResultFile.add,
          List.append_assoc, List.singleton_append]
        rfl
      · have hsame : (output.after job).file = some file := by rw [hafter, hfile]
        obtain ⟨last, hlast, hresults⟩ := ih hnext hsame
        refine ⟨last, hlast, ?_⟩
        rw [hresults, turns, List.filter_cons_of_neg (by simp [hdone])]

end

end

end Output

/-! ## Both writers -/

open Output (Job Turn)

section

variable [Limits]

/-- What both writers make of some jobs: the list for the result file and the log are about the same
ones. -/
structure Output.Accord (output : Output) (indent : ℕ) (jobs : List Job) : Prop where
  /-- Every job has its turn. -/
  jobs_eq : (output.turns jobs).map Turn.job = jobs
  /-- At every point the list holds the results whose writing was done, in order. -/
  collected : ∀ n, ∃ file, (output.afterAll (jobs.take n)).file = some file ∧
    file.results = (((output.turns jobs).take n).filter Turn.done).map fun t => t.job.entry
  /-- Writing was done where the console told the log every line of the result. -/
  done_iff : ∀ t ∈ output.turns jobs, t.done = true ↔ t.IsShown indent
  /-- Where it was not done, the console told no line of the result. -/
  told_eq : ∀ t ∈ output.turns jobs, t.done = false → t.told = pathRecords t.job.dataPath
  /-- It was not done where the value of the result cannot be written. -/
  not_done_iff : ∀ t ∈ output.turns jobs,
    t.done = false ↔ Unwritable .console indent t.job.result.value

/-- **The writers agree**, whatever the results are and however many of them cannot be written. -/
theorem writers_agree {settings : OutputSettings} {output : Output}
    (houtput : Output.ofSettings settings = .ok output) (hconsole : .console ∈ settings.formats)
    (hfile : .json ∈ settings.formats) (jobs : List Job) : output.Accord settings.indent jobs := by
  obtain rfl := Output.eq_writers_of_ofSettings houtput
  have hshows : settings.writers.console = some ⟨settings.indent⟩ := if_pos hconsole
  have hcollects : settings.writers.file = some
      { dir := (Files.Path.ofText settings.baseDir).child "json", indent := settings.indent } :=
    if_pos hfile
  -- each turn by itself, since the console is the same in all of them
  have hcases : ∀ t ∈ settings.writers.turns jobs,
      (t.done = true ∧ t.IsShown settings.indent) ∨
        t.done = false ∧ t.told = pathRecords t.job.dataPath ∧
          Unwritable .console settings.indent t.job.result.value := by
    intro t ht
    obtain ⟨before, hbefore, hturn⟩ := Output.exists_mem_turns hshows ht
    have h := Output.turn_cases hbefore t.job
    rw [← hturn] at h
    rcases h with ⟨hdone, hshown, -⟩ | ⟨hdone, htold, hvalue, -⟩
    · exact .inl ⟨hdone, hshown⟩
    · exact .inr ⟨hdone, htold, hvalue⟩
  refine ⟨Output.map_job_turns _ jobs, fun n => ?_, fun t ht => ?_, fun t ht hdone => ?_,
    fun t ht => ?_⟩
  · rw [← Output.turns_take]
    exact Output.collected_afterAll hshows hcollects (jobs.take n)
  · rcases hcases t ht with ⟨hdone, hshown⟩ | ⟨hdone, -, hvalue⟩
    · exact iff_of_true hdone hshown
    · exact iff_of_false (by simp [hdone]) fun hshown => hshown.not_unwritable hvalue
  · rcases hcases t ht with ⟨hdone', -⟩ | ⟨-, htold, -⟩
    · rw [hdone] at hdone'
      cases hdone'
    · exact htold
  · rcases hcases t ht with ⟨hdone, hshown⟩ | ⟨hdone, -, hvalue⟩
    · exact iff_of_false (by simp [hdone]) hshown.not_unwritable
    · exact iff_of_true hdone hvalue

end

/-- The text in the middle is written; the values before it and after it are not, since in one of
them a reference stands, and in the other an integer of too many digits. -/
theorem writers_agree_between :
    letI := Limits.ordinary
    let settings : OutputSettings := { formats := [.console, .json] }
    Output.ofSettings settings = .ok settings.writers ∧ .console ∈ settings.formats ∧
      .json ∈ settings.formats ∧
      settings.writers.Accord 2 [
        ⟨⟨"[&a]", .array [.reference ⟨.field "a", []⟩]⟩, none⟩,
        ⟨⟨"b", .text "x"⟩, some "in.json"⟩,
        ⟨⟨"c", .object [(.text "n", .number (.int (Nat.pow 10 digitLimit)))]⟩, none⟩] := by
  let limits := Limits.ordinary
  intro settings
  have hconsole : Format.console ∈ settings.formats := by decide
  have hfile : Format.json ∈ settings.formats := by decide
  exact ⟨rfl, hconsole, hfile, writers_agree rfl hconsole hfile _⟩

/-- In the number 1 nothing is without words, and yet it is not written with more blanks per level
than can be counted. -/
theorem turn_uncountable :
    letI := Limits.ordinary
    let settings : OutputSettings := { formats := [.console, .json], indent := 9223372036854775808 }
    let job : Job := ⟨⟨"@", .number (.int 1)⟩, none⟩
    Output.ofSettings settings = .ok settings.writers ∧
      (settings.writers.turn job).done = false ∧
      ¬∃ x n, StandsIn x n job.result.value ∧ IsWordless x := by
  intro settings job
  refine ⟨rfl, rfl, ?_⟩
  rintro ⟨x, n, hx, hword⟩
  obtain rfl : x = .number (.int 1) := by cases hx; rfl
  exact Expr.Item.not_isWordless_digit (by decide) hword

end Winnow
