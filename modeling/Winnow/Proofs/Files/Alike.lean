import Winnow.Proofs.Files.Tree

/-!
# Trees that differ in some files

Two trees that differ only in what some files hold, such as the files of a log, cannot be told apart
by what is done elsewhere: paths lead to the same places, and directories and files are made alike.

* `Alike` — trees that differ at most in the files at some places.
* `Alike.locate_eq` — paths lead to the same places.
* `Alike.makeDirectories`, `Alike.write` — what is made keeps trees alike, and succeeds in both or
  in none.
-/

namespace Winnow.Files

/-- Makes one directory, or leaves the tree as it was. -/
def attempt (path : Path) (files : Files) : Files × Except FileError Unit :=
  match files.ensureDirectory path with
  | .ok made => (made, .ok ())
  | .error e => (files, .error e)

/-- Two trees with the same room that differ at most at the places `off`, where both have files. -/
structure Alike (off : Location → Prop) (a b : Files) : Prop where
  same : ∀ l, ¬off l → a.get? l = b.get? l
  left : ∀ l, off l → ∃ text, a.get? l = some (.file text)
  right : ∀ l, off l → ∃ text, b.get? l = some (.file text)
  rooms : b.rooms = a.rooms

namespace Alike

variable {off : Location → Prop} {a b : Files}

/-- At every place both trees have the same entry, or both have files. -/
theorem cases_get? (h : Alike off a b) (l : Location) :
    a.get? l = b.get? l ∨
      ∃ s t, a.get? l = some (.file s) ∧ b.get? l = some (.file t) := by
  by_cases hl : off l
  · obtain ⟨s, hs⟩ := h.left l hl
    obtain ⟨t, ht⟩ := h.right l hl
    exact .inr ⟨s, t, hs, ht⟩
  · exact .inl (h.same l hl)

/-! ## Looking -/

theorem walk_eq (h : Alike off a b) (l : Location) (names : List Text) :
    a.walk l names = b.walk l names := by
  induction names generalizing l with
  | nil => rfl
  | cons name rest ih =>
      rw [walk, walk]
      rcases h.cases_get? (l.child name) with hsame | ⟨s, t, hs, ht⟩
      · rw [hsame, ih]
      · rw [hs, ht]

/-- Paths lead to the same places. -/
theorem locate_eq (h : Alike off a b) (path : Path) : a.locate path = b.locate path := by
  rw [locate, locate, h.walk_eq]

theorem isDirectory_eq (h : Alike off a b) (path : Path) :
    a.isDirectory path = b.isDirectory path := by
  rw [isDirectory, isDirectory, find?, find?, h.locate_eq]
  cases b.locate path with
  | error e => rfl
  | ok l =>
      dsimp only
      rcases h.cases_get? l with hsame | ⟨s, t, hs, ht⟩
      · rw [hsame]
      · rw [hs, ht]

/-- What is read is the same, away from the places at which the trees may differ. -/
theorem read_eq (h : Alike off a b) {path : Path}
    (hpath : ∀ l, a.locate path = .ok l → ¬off l) : a.read path = b.read path := by
  rw [read, read, ← h.locate_eq]
  cases hlocate : a.locate path with
  | error e => rfl
  | ok l => simp only [bind, Except.bind, h.same l (hpath l hlocate)]

/-! ## Making -/

theorem put_file (h : Alike off a b) {l : Location} (hl : l.names ≠ []) (text : String) :
    Alike off (a.put l (.file text)) (b.put l (.file text)) where
  same k hk := by
    rw [get?_put _ _ _ _ hl, get?_put _ _ _ _ hl, h.same k hk]
  left k hk := by
    rw [get?_put _ _ _ _ hl]
    split_ifs
    · exact ⟨text, rfl⟩
    · exact h.left k hk
  right k hk := by
    rw [get?_put _ _ _ _ hl]
    split_ifs
    · exact ⟨text, rfl⟩
    · exact h.right k hk
  rooms := h.rooms

theorem put_directory (h : Alike off a b) {l : Location} (hl : a.get? l = none) :
    Alike off (a.put l .directory) (b.put l .directory) := by
  have hnames : l.names ≠ [] := names_ne_nil_of_get? (by rw [hl]; exact fun h => nomatch h)
  have hne : ∀ k, off k → k ≠ l := by
    rintro k hk rfl
    obtain ⟨text, htext⟩ := h.left k hk
    rw [hl] at htext
    cases htext
  constructor
  · intro k hk
    rw [get?_put _ _ _ _ hnames, get?_put _ _ _ _ hnames, h.same k hk]
  · intro k hk
    rw [get?_put_of_ne _ _ (hne k hk)]
    exact h.left k hk
  · intro k hk
    rw [get?_put_of_ne _ _ (hne k hk)]
    exact h.right k hk
  · exact h.rooms

theorem makeDirectory (h : Alike off a b) (path : Path) :
    SameOutcome (Alike off) (a.makeDirectory path) (b.makeDirectory path) := by
  rw [Files.makeDirectory, Files.makeDirectory, ← h.locate_eq]
  cases a.locate path with
  | error e => exact .error e
  | ok l =>
      simp only [bind, Except.bind]
      rcases h.cases_get? l with hsame | ⟨s, t, hs, ht⟩
      · rw [← hsame]
        cases hl : a.get? l with
        | none => exact .ok (h.put_directory hl)
        | some entry => exact .error _
      · rw [hs, ht]
        exact .error _

theorem ensureDirectory (h : Alike off a b) (path : Path) :
    SameOutcome (Alike off) (a.ensureDirectory path) (b.ensureDirectory path) := by
  rw [Files.ensureDirectory, Files.ensureDirectory, ← h.isDirectory_eq]
  rcases (h.makeDirectory path).cases_eq with ⟨made, made', ha, hb, hmade⟩ | ⟨e, ha, hb⟩
  · rw [ha, hb]
    exact .ok hmade
  · rw [ha, hb]
    dsimp only
    split_ifs
    · exact .ok h
    · exact .error e

/-- A directory is made alike, or neither tree changes. -/
theorem attempt (h : Alike off a b) (path : Path) :
    Alike off (Files.attempt path a).1 (Files.attempt path b).1 ∧
      (Files.attempt path a).2 = (Files.attempt path b).2 := by
  rw [Files.attempt, Files.attempt]
  rcases (h.ensureDirectory path).cases_eq with ⟨made, made', ha, hb, hmade⟩ | ⟨e, ha, hb⟩
  · rw [ha, hb]
    exact ⟨hmade, rfl⟩
  · rw [ha, hb]
    exact ⟨h, rfl⟩

theorem makeAll (h : Alike off a b) (origin : Origin) (names : List Text) :
    Alike off (Files.makeAll origin names a).1 (Files.makeAll origin names b).1 ∧
      (Files.makeAll origin names a).2 = (Files.makeAll origin names b).2 := by
  induction names with
  | nil => exact h.attempt ⟨origin, []⟩
  | cons name above ih =>
      rw [Files.makeAll, Files.makeAll]
      rcases (h.ensureDirectory ⟨origin, (name :: above).reverse⟩).cases_eq with
        ⟨made, made', ha, hb, hmade⟩ | ⟨e, ha, hb⟩
      · rw [ha, hb]
        exact ⟨hmade, rfl⟩
      · rw [ha, hb]
        dsimp only
        split_ifs
        · -- the directories above are made first, alike in both trees
          cases hmade : Files.makeAll origin above a with
          | mk made outcome =>
              cases hmade' : Files.makeAll origin above b with
              | mk made' outcome' =>
                  rw [hmade, hmade'] at ih
                  obtain ⟨halike, rfl⟩ := ih
                  cases outcome with
                  | error e => exact ⟨halike, rfl⟩
                  | ok u => exact halike.attempt ⟨origin, (name :: above).reverse⟩
        · exact ⟨h, rfl⟩

/-- Directories are made alike. -/
theorem makeDirectories (h : Alike off a b) (path : Path) :
    Alike off (a.makeDirectories path).1 (b.makeDirectories path).1 ∧
      (a.makeDirectories path).2 = (b.makeDirectories path).2 :=
  h.makeAll path.origin path.names.reverse

theorem target_eq (h : Alike off a b) (path : Path) : a.target path = b.target path := by
  rw [target, target, ← h.locate_eq]
  cases a.locate path with
  | error e => rfl
  | ok l =>
      simp only [bind, Except.bind]
      rcases h.cases_get? l with hsame | ⟨s, t, hs, ht⟩
      · rw [hsame]
      · rw [hs, ht]

/-- Files are written alike. -/
theorem write (h : Alike off a b) (path : Path) (text : Text) :
    Alike off (a.write path text).1 (b.write path text).1 ∧
      (a.write path text).2 = (b.write path text).2 := by
  cases htarget : a.target path with
  | error e =>
      rw [write_of_target_error htarget, write_of_target_error (h.target_eq path ▸ htarget)]
      exact ⟨h, rfl⟩
  | ok l =>
      have hnames := names_ne_nil_of_get? (eq_of_target htarget).2
      rw [write_of_target htarget, write_of_target (h.target_eq path ▸ htarget)]
      cases text.encode with
      | error fault => exact ⟨h.put_file hnames "", rfl⟩
      | ok string =>
          simp only [taken_congr h.rooms]
          exact ⟨h.put_file hnames _, trivial⟩

end Alike

end Winnow.Files
