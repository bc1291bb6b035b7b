import Winnow.Proofs.Files.Tree
import Winnow.Proofs.Text.CodePoints

/-!
# What stands in the way of a path

A directory is made, together with those above it, unless a file stands on the way to it or the
system does not take its path. A file is opened unless, besides, there is a directory at its place.

* `Path.place` — the place that a path leads to if nothing stands in the way.
* `Path.IsUsable` — paths that the system takes.
* `Clear` — trees in which no file stands on the way of a path.
* `makeDirectories_eq_ok_iff` — when a directory is made.
* `OpensIn`, `opensIn_iff` — when a file is opened after a directory was made.
* `Opens`, `opens_iff` — when a file is opened in a directory that is made for it.
-/

namespace Winnow.Files

/-! ## Places of paths -/

/-- The place that names lead to if nothing stands in the way. -/
def Location.follow (l : Location) (names : List Text) : Location := names.foldl Location.child l

@[simp] theorem Location.follow_nil (l : Location) : l.follow [] = l := rfl

@[simp] theorem Location.follow_cons (l : Location) (name : Text) (names : List Text) :
    l.follow (name :: names) = (l.child name).follow names := rfl

/-- The place that a path leads to if nothing stands in the way. -/
def Path.place (path : Path) : Location := (Location.ofOrigin path.origin).follow path.names

/-- The paths that lead along a path to its end. -/
def Path.fronts (path : Path) : List Path := path.names.inits.map fun names => ⟨path.origin, names⟩

theorem Path.mem_fronts_iff {path front : Path} :
    front ∈ path.fronts ↔ front.origin = path.origin ∧ front.names <+: path.names := by
  obtain ⟨origin, names⟩ := front
  simp [Path.fronts, eq_comm, and_comm]

/-- The paths along a path with one name more are those along it, and the path itself. -/
theorem Path.mem_fronts_concat_iff {origin : Origin} {names : List Text} {name : Text}
    {front : Path} :
    front ∈ Path.fronts ⟨origin, names ++ [name]⟩ ↔
      front ∈ Path.fronts ⟨origin, names⟩ ∨ front = ⟨origin, names ++ [name]⟩ := by
  obtain ⟨origin', names'⟩ := front
  simp only [Path.mem_fronts_iff, List.prefix_concat_iff, Path.mk.injEq]
  tauto

/-! ## Paths that the system takes -/

/-- The system takes a path that it can encode and that holds no NUL, if neither the path nor any of
its names is too long. -/
structure Path.IsUsable (path : Path) : Prop where
  encodable : path.text.pathFault? = none
  sound : path.isSound = true
  short : path.isShort = true
  names : ∀ name ∈ path.names, isShortName name = true

theorem Path.isUsable_start (origin : Origin) : Path.IsUsable ⟨origin, []⟩ := by
  cases origin <;> exact ⟨by decide, by decide, by decide, by simp⟩

theorem Path.text_concat (origin : Origin) {names : List Text} (h : names ≠ []) (name : Text) :
    Path.text ⟨origin, names ++ [name]⟩ = Path.text ⟨origin, names⟩ ++ ("/" ++ name) := by
  have hne : names ++ [name] ≠ [] := List.concat_ne_nil name names
  rw [Path.text, if_neg fun hnil => hne hnil.2, Path.text, if_neg fun hnil => h hnil.2,
    Text.intercalate_concat_of_ne_nil h, Text.append_assoc]

/-- What leads to a path that the system takes is taken too. -/
theorem Path.IsUsable.of_concat {origin : Origin} {names : List Text} {name : Text}
    (h : Path.IsUsable ⟨origin, names ++ [name]⟩) : Path.IsUsable ⟨origin, names⟩ := by
  by_cases hnames : names = []
  · rw [hnames]
    exact isUsable_start origin
  · have hencodable := h.encodable
    have hsound := h.sound
    have hshort := h.short
    rw [text_concat origin hnames, Text.pathFault?_eq_none_iff] at hencodable
    simp only [isSound, isShort, text_concat origin hnames, Text.toList_append, Text.pathSize,
      Text.pointsSize_append, List.contains_append] at hsound hshort
    refine ⟨?_, ?_, ?_, fun part hpart => h.names part (by simp [hpart])⟩
    · exact Text.pathFault?_eq_none_iff.2 fun n hn => hencodable n (List.mem_append_left _ hn)
    · simp only [isSound]
      simp_all
    · have hfront := (Nat.le_add_right _ _).trans (of_decide_eq_true hshort)
      exact decide_eq_true hfront

/-! ## Walking -/

variable {files : Files}

theorem eq_follow_of_walk {l place : Location} {names : List Text}
    (h : files.walk l names = .ok place) : place = l.follow names := by
  induction names generalizing l with
  | nil => exact (Except.ok.inj h).symm
  | cons name rest ih =>
      unfold walk at h
      split_ifs at h with hshort hrest
      · subst hrest
        exact (Except.ok.inj h).symm
      · split at h
        · cases h
        · cases h
        · exact ih h

/-- **Walking** succeeds along directories. Where no file stands, it can only fail for want of a
directory. -/
theorem walk_eq_ok_or_notFound {l : Location} {names : List Text}
    (hshort : ∀ name ∈ names, isShortName name = true)
    (hclear : ∀ front, front <+: names → front ≠ names →
      ∀ text, files.get? (l.follow front) ≠ some (.file text)) :
    files.walk l names = .ok (l.follow names) ∨
      files.walk l names = .error .notFound ∧
        ∃ front, front <+: names ∧ front ≠ names ∧ files.get? (l.follow front) = none := by
  induction names generalizing l with
  | nil => exact .inl rfl
  | cons name rest ih =>
      obtain ⟨hname, hrest⟩ := List.forall_mem_cons.1 hshort
      unfold walk
      by_cases hempty : rest = []
      · subst hempty
        left
        simp [hname]
      · have hne : [name] ≠ name :: rest := by simpa using Ne.symm hempty
        have hfirst := hclear [name] (by simp) hne
        simp only [hname, hempty, Bool.not_true, Bool.false_eq_true, if_false]
        cases hget : files.get? (l.child name) with
        | none => exact .inr ⟨rfl, [name], by simp, hne, hget⟩
        | some entry =>
            cases entry with
            | file text => exact absurd hget (hfirst text)
            | directory =>
                have hclear' : ∀ front, front <+: rest → front ≠ rest →
                    ∀ text, files.get? ((l.child name).follow front) ≠ some (.file text) := by
                  intro front hfront hne'
                  exact hclear (name :: front) (by simpa using hfront) (by simpa using hne')
                rcases ih hrest hclear' with hok | ⟨herror, front, hfront, hne', hnone⟩
                · exact .inl hok
                · exact .inr ⟨herror, name :: front, by simpa using hfront, by simpa using hne',
                    hnone⟩

theorem forall_of_walk {l place : Location} {names : List Text}
    (h : files.walk l names = .ok place) :
    (∀ name ∈ names, isShortName name = true) ∧
      ∀ front, front <+: names → front ≠ [] → front ≠ names →
        files.get? (l.follow front) = some .directory := by
  induction names generalizing l with
  | nil => simp
  | cons name rest ih =>
      unfold walk at h
      split_ifs at h with hname hrest
      · subst hrest
        refine ⟨by simpa using hname, fun front hfront hnil hne => ?_⟩
        rcases List.prefix_cons_iff.1 hfront with rfl | ⟨front', rfl, hfront'⟩
        · exact absurd rfl hnil
        · simp_all
      · split at h
        · cases h
        · cases h
        · next hdirectory =>
            obtain ⟨hshort, hfronts⟩ := ih h
            refine ⟨List.forall_mem_cons.2 ⟨by simpa using hname, hshort⟩,
              fun front hfront hnil hne => ?_⟩
            rcases List.prefix_cons_iff.1 hfront with rfl | ⟨front', rfl, hfront'⟩
            · exact absurd rfl hnil
            · by_cases hnil' : front' = []
              · rw [hnil']
                exact hdirectory
              · exact hfronts front' hfront' hnil' (by simpa using hne)

/-! ## Locating -/

/-- A tree in which directories lead to a path. -/
def Leads (files : Files) (path : Path) : Prop :=
  ∀ front ∈ path.fronts, front ≠ path → files.get? front.place = some .directory

theorem get?_ofOrigin (files : Files) (origin : Origin) :
    files.get? (Location.ofOrigin origin) = some .directory := by
  cases origin <;> rfl

/-- What can be handed to the system is taken if no name is too long. -/
theorem refusal?_eq_none_iff {path : Path} :
    refusal? path = none ↔
      path.text.pathFault? = none ∧ path.isSound = true ∧ path.isShort = true := by
  unfold refusal?
  cases path.text.pathFault? with
  | some fault => simp
  | none => cases path.isSound <;> cases path.isShort <;> simp

theorem locate_of_usable {path : Path} (h : path.IsUsable) :
    files.locate path = match files.walk (Location.ofOrigin path.origin) path.names with
      | .ok l => .ok l
      | .error kind => .error ⟨kind, path⟩ := by
  have hrefusal := refusal?_eq_none_iff.2 ⟨h.encodable, h.sound, h.short⟩
  cases hwalk : files.walk (Location.ofOrigin path.origin) path.names <;>
    simp [locate, hrefusal, hwalk]

/-- **A path leads to its place** exactly if the system takes it and directories lead to it. -/
theorem leads_iff {path : Path} {place : Location} :
    files.locate path = .ok place ↔ path.IsUsable ∧ Leads files path ∧ place = path.place := by
  constructor
  · intro h
    obtain ⟨hrefusal, hwalk⟩ := locate_eq_ok_iff.1 h
    obtain ⟨hshort, hfronts⟩ := forall_of_walk hwalk
    obtain ⟨hencodable, hsound, hlong⟩ := refusal?_eq_none_iff.1 hrefusal
    refine ⟨⟨hencodable, hsound, hlong, hshort⟩, ?_, eq_follow_of_walk hwalk⟩
    rintro ⟨origin, front⟩ hfront hne
    obtain ⟨rfl, hprefix⟩ := Path.mem_fronts_iff.1 hfront
    by_cases hnil : front = []
    · rw [hnil]
      exact get?_ofOrigin files path.origin
    · apply hfronts front hprefix hnil
      rintro rfl
      exact hne rfl
  · rintro ⟨husable, hleads, rfl⟩
    have hdirectory : ∀ front, front <+: path.names → front ≠ path.names →
        files.get? ((Location.ofOrigin path.origin).follow front) = some .directory := by
      intro front hprefix hne
      apply hleads ⟨path.origin, front⟩ (Path.mem_fronts_iff.2 ⟨rfl, hprefix⟩)
      intro h
      exact hne (congrArg Path.names h)
    have hclear : ∀ front, front <+: path.names → front ≠ path.names → ∀ text,
        files.get? ((Location.ofOrigin path.origin).follow front) ≠ some (.file text) := by
      intro front hprefix hne text
      simp [hdirectory front hprefix hne]
    rw [locate_of_usable husable]
    rcases walk_eq_ok_or_notFound husable.names hclear with hok | ⟨-, front, hprefix, hne, hnone⟩
    · rw [hok]
      rfl
    · simp [hdirectory front hprefix hne] at hnone

/-- Where no file stands on the way, a path that the system takes leads to its place, or nothing is
there. -/
theorem locate_eq_ok_or_notFound {path : Path} (husable : path.IsUsable)
    (hclear : ∀ front ∈ path.fronts, front ≠ path →
      ∀ text, files.get? front.place ≠ some (.file text)) :
    files.locate path = .ok path.place ∨ files.locate path = .error ⟨.notFound, path⟩ := by
  have hfronts : ∀ front, front <+: path.names → front ≠ path.names → ∀ text,
      files.get? ((Location.ofOrigin path.origin).follow front) ≠ some (.file text) := by
    intro front hprefix hne
    apply hclear ⟨path.origin, front⟩ (Path.mem_fronts_iff.2 ⟨rfl, hprefix⟩)
    intro h
    exact hne (congrArg Path.names h)
  rw [locate_of_usable husable]
  rcases walk_eq_ok_or_notFound husable.names hfronts with hok | ⟨herror, -⟩
  · left
    rw [hok]
    rfl
  · right
    rw [herror]

/-! ## Making directories -/

/-- A tree in which no file stands on the way of a path or at its end. -/
def Clear (files : Files) (path : Path) : Prop :=
  ∀ front ∈ path.fronts, ∀ text, files.get? front.place ≠ some (.file text)

theorem Path.self_mem_fronts (path : Path) : path ∈ path.fronts :=
  Path.mem_fronts_iff.2 ⟨rfl, List.prefix_refl _⟩

theorem ensureDirectory_of_notFound {path : Path}
    (h : files.locate path = .error ⟨.notFound, path⟩) :
    files.ensureDirectory path = .error ⟨.notFound, path⟩ := by
  simp [ensureDirectory, makeDirectory, isDirectory, find?, h, bind, Except.bind]

/-- A directory is made, or left as it is, at a place that is no file's. -/
theorem exists_ensureDirectory {path : Path} (h : files.locate path = .ok path.place)
    (hclear : ∀ text, files.get? path.place ≠ some (.file text)) :
    ∃ made, files.ensureDirectory path = .ok made := by
  cases hget : files.get? path.place with
  | none => exact ⟨_, by simp [ensureDirectory, makeDirectory, h, hget, bind, Except.bind]; rfl⟩
  | some entry =>
      cases entry with
      | file text => exact absurd hget (hclear text)
      | directory =>
          exact ⟨files, by
            simp [ensureDirectory, makeDirectory, isDirectory, find?, h, hget, bind, Except.bind]⟩

/-- A directory that was made, or was there, is where its path leads to, and nothing else changed.
-/
theorem of_ensureDirectory {made : Files} {path : Path}
    (h : files.ensureDirectory path = .ok made) :
    path.IsUsable ∧ Leads files path ∧ made.get? path.place = some .directory ∧
      ∀ l, l ≠ path.place → made.get? l = files.get? l := by
  unfold ensureDirectory at h
  split at h
  · next made' hmade =>
      obtain rfl := Except.ok.inj h
      obtain ⟨place, hlocate, hput⟩ := exists_of_bind_eq_ok hmade
      obtain ⟨husable, hleads, rfl⟩ := leads_iff.1 hlocate
      split at hput
      · cases hput
      · next hnone =>
          obtain rfl := Except.ok.inj hput
          have hnames : path.place.names ≠ [] :=
            names_ne_nil_of_get? (by rw [hnone]; exact fun h => nomatch h)
          refine ⟨husable, hleads, ?_, fun l hl => get?_put_of_ne files _ hl⟩
          rw [get?_put _ _ _ _ hnames, if_pos rfl]
  · split_ifs at h with hdirectory
    obtain rfl := Except.ok.inj h
    unfold isDirectory find? at hdirectory
    cases hlocate : files.locate path with
    | error e => simp [hlocate] at hdirectory
    | ok place =>
        obtain ⟨husable, hleads, rfl⟩ := leads_iff.1 hlocate
        refine ⟨husable, hleads, ?_, fun l _ => rfl⟩
        simp only [hlocate] at hdirectory
        split at hdirectory
        · assumption
        · cases hdirectory

/-- A path was made in a tree: directories lead to it, it is one itself, and nothing else is new. -/
structure Made (files made : Files) (path : Path) : Prop where
  usable : path.IsUsable
  directory : ∀ front ∈ path.fronts, made.get? front.place = some .directory
  elsewhere : ∀ l, (∀ front ∈ path.fronts, l ≠ front.place) → made.get? l = files.get? l

/-- A directory that is made where directories lead to it is made. -/
theorem Made.of_ensureDirectory {made : Files} {path : Path}
    (h : files.ensureDirectory path = .ok made) : Made files made path := by
  obtain ⟨husable, hleads, hplace, hsame⟩ := Files.of_ensureDirectory h
  refine ⟨husable, fun front hfront => ?_, fun l hl => hsame l (hl path path.self_mem_fronts)⟩
  by_cases heq : front = path
  · rw [heq]
    exact hplace
  · exact (onlyDirectories_ensureDirectory h).keeps.directory _ (hleads front hfront heq)

/-- One more directory is made in the last of those that were made. -/
theorem Made.concat {made last : Files} {origin : Origin} {names : List Text} {name : Text}
    (h : Made files made ⟨origin, names⟩)
    (hlast : made.ensureDirectory ⟨origin, names ++ [name]⟩ = .ok last) :
    Made files last ⟨origin, names ++ [name]⟩ := by
  have hmade := Made.of_ensureDirectory hlast
  refine ⟨hmade.usable, hmade.directory, fun l hl => ?_⟩
  rw [hmade.elsewhere l hl]
  apply h.elsewhere l
  intro front hfront
  exact hl front (Path.mem_fronts_concat_iff.2 (.inl hfront))

/-- Directories lead to what is named in the last of those that were made. -/
theorem Made.locate_concat {made : Files} {origin : Origin} {names : List Text} {name : Text}
    (h : Made files made ⟨origin, names⟩) (husable : Path.IsUsable ⟨origin, names ++ [name]⟩) :
    made.locate ⟨origin, names ++ [name]⟩ = .ok (Path.place ⟨origin, names ++ [name]⟩) := by
  refine leads_iff.2 ⟨husable, fun front hfront hne => ?_, rfl⟩
  rcases Path.mem_fronts_concat_iff.1 hfront with hfront | rfl
  · exact h.directory front hfront
  · exact absurd rfl hne

theorem made_of_makeAll {made : Files} {origin : Origin} {names : List Text}
    (h : makeAll origin names.reverse files = (made, .ok ())) :
    Made files made ⟨origin, names⟩ := by
  induction names using List.reverseRecOn generalizing made with
  | nil =>
      rw [List.reverse_nil, makeAll] at h
      split at h
      · next hmade =>
          obtain ⟨rfl, -⟩ := Prod.mk.inj h
          exact .of_ensureDirectory hmade
      · cases h
  | append_singleton names name ih =>
      rw [List.reverse_concat, makeAll, List.reverse_cons, List.reverse_reverse] at h
      split at h
      · next hmade =>
          obtain ⟨rfl, -⟩ := Prod.mk.inj h
          exact .of_ensureDirectory hmade
      · split_ifs at h
        · -- the directories above were missing and are made first
          cases habove : makeAll origin names.reverse files with
          | mk above outcome =>
              rw [habove] at h
              cases outcome with
              | error e => cases h
              | ok u =>
                  dsimp only at h
                  split at h
                  · next hlast =>
                      obtain ⟨rfl, -⟩ := Prod.mk.inj h
                      exact (ih habove).concat hlast
                  · cases h
        · cases h

theorem makeAll_eq_ok {origin : Origin} {names : List Text}
    (husable : Path.IsUsable ⟨origin, names⟩) (hclear : Clear files ⟨origin, names⟩) :
    (makeAll origin names.reverse files).2 = .ok () := by
  induction names using List.reverseRecOn with
  | nil =>
      have hlocate : files.locate ⟨origin, []⟩ = .ok (Path.place ⟨origin, []⟩) := by
        refine leads_iff.2 ⟨husable, fun front hfront hne => ?_, rfl⟩
        simp [Path.fronts] at hfront
        exact absurd hfront hne
      obtain ⟨made, hmade⟩ := exists_ensureDirectory hlocate (hclear _ (Path.self_mem_fronts _))
      rw [List.reverse_nil, makeAll, hmade]
  | append_singleton names name ih =>
      rw [List.reverse_concat, makeAll, List.reverse_cons, List.reverse_reverse]
      rcases locate_eq_ok_or_notFound husable (fun front hfront _ => hclear front hfront) with
        hlocate | hlocate
      · obtain ⟨made, hmade⟩ := exists_ensureDirectory hlocate (hclear _ (Path.self_mem_fronts _))
        rw [hmade]
      · have habove := ih husable.of_concat fun front hfront =>
          hclear front (Path.mem_fronts_concat_iff.2 (.inl hfront))
        rw [ensureDirectory_of_notFound hlocate]
        dsimp only
        rw [if_pos rfl]
        have honly := onlyDirectories_makeAll origin names.reverse files
        cases hmade : makeAll origin names.reverse files with
        | mk above outcome =>
            rw [hmade] at habove honly
            obtain rfl : outcome = .ok () := habove
            dsimp only at honly ⊢
            have hleads := (made_of_makeAll hmade).locate_concat husable
            obtain ⟨last, hlast⟩ := exists_ensureDirectory hleads fun text htext =>
              hclear _ (Path.self_mem_fronts _) text ((honly.get?_file_iff not_false text).1 htext)
            rw [hlast]

theorem made_of_makeDirectories {made : Files} {path : Path}
    (h : files.makeDirectories path = (made, .ok ())) : Made files made path :=
  made_of_makeAll h

/-- **When a directory is made**, together with those above it: exactly if the system takes its path
and no file stands on the way. -/
theorem makeDirectories_eq_ok_iff {path : Path} :
    (files.makeDirectories path).2 = .ok () ↔ path.IsUsable ∧ Clear files path := by
  constructor
  · intro h
    have hmade := made_of_makeDirectories (Prod.ext rfl h)
    refine ⟨hmade.usable, fun front hfront text htext => ?_⟩
    have honly := onlyDirectories_makeDirectories files path
    rw [← honly.get?_file_iff not_false text, hmade.directory front hfront] at htext
    cases htext
  · rintro ⟨husable, hclear⟩
    exact makeAll_eq_ok husable hclear

/-! ## Opening files -/

theorem target_eq_ok_iff {path : Path} {place : Location} :
    files.target path = .ok place ↔
      files.locate path = .ok place ∧ files.get? place ≠ some .directory := by
  refine ⟨eq_of_target, ?_⟩
  rintro ⟨hlocate, hdirectory⟩
  rw [target, hlocate, ok_bind]
  split
  · next h => exact absurd h hdirectory
  · rfl

/-- A file can be opened at a path after a directory was made: the system takes both paths, no file
stands on the way to the directory, the way to the file leads along directories that are made or
were there, and at its place there is no directory, nor is one made there. -/
structure OpensIn (files : Files) (dir path : Path) : Prop where
  dirUsable : dir.IsUsable
  clear : Clear files dir
  usable : path.IsUsable
  leads : ∀ front ∈ path.fronts, front ≠ path →
    (∃ made ∈ dir.fronts, front.place = made.place) ∨ files.get? front.place = some .directory
  noDirectory : files.get? path.place ≠ some .directory
  away : ∀ front ∈ dir.fronts, front.place ≠ path.place

/-- **When a file is opened** after a directory was made. -/
theorem opensIn_iff {dir path : Path} :
    OpensIn files dir path ↔
      ∃ made place, files.makeDirectories dir = (made, .ok ()) ∧ made.target path = .ok place := by
  constructor
  · intro h
    have hok := makeDirectories_eq_ok_iff.2 ⟨h.dirUsable, h.clear⟩
    have hmade := made_of_makeDirectories (Prod.ext rfl hok)
    have honly := onlyDirectories_makeDirectories files dir
    refine ⟨_, path.place, Prod.ext rfl hok, target_eq_ok_iff.2 ⟨?_, ?_⟩⟩
    · refine leads_iff.2 ⟨h.usable, fun front hfront hne => ?_, rfl⟩
      rcases h.leads front hfront hne with ⟨made, hmem, hplace⟩ | hdirectory
      · rw [hplace]
        exact hmade.directory made hmem
      · exact honly.keeps.directory _ hdirectory
    · rw [hmade.elsewhere _ fun front hfront => (h.away front hfront).symm]
      exact h.noDirectory
  · rintro ⟨made, place, hmakes, htarget⟩
    have honly := onlyDirectories_makeDirectories files dir
    obtain ⟨hlocate, hdirectory⟩ := target_eq_ok_iff.1 htarget
    obtain ⟨husable, hleads, rfl⟩ := leads_iff.1 hlocate
    have hok : (files.makeDirectories dir).2 = .ok () := by rw [hmakes]
    obtain ⟨hdir, hclear⟩ := makeDirectories_eq_ok_iff.1 hok
    have hmade := made_of_makeDirectories hmakes
    rw [hmakes] at honly
    refine ⟨hdir, hclear, husable, fun front hfront hne => ?_, fun h => ?_,
      fun front hfront h => ?_⟩
    · by_cases hmem : ∃ made ∈ dir.fronts, front.place = made.place
      · exact .inl hmem
      · push Not at hmem
        rw [← hmade.elsewhere _ hmem]
        exact .inr (hleads front hfront hne)
    · exact hdirectory (honly.keeps.directory _ h)
    · apply hdirectory
      rw [← h]
      exact hmade.directory front hfront

/-- A file can be opened at a path, in directories that are made for it: the system takes the path,
no file stands on the way to it, and at its place there is no directory, nor is one made there. -/
structure Opens (files : Files) (path : Path) : Prop where
  usable : path.IsUsable
  clear : Clear files path.parent
  noDirectory : files.get? path.place ≠ some .directory
  away : ∀ front ∈ path.parent.fronts, front.place ≠ path.place

theorem Path.parent_concat (origin : Origin) (names : List Text) (name : Text) :
    Path.parent ⟨origin, names ++ [name]⟩ = ⟨origin, names⟩ := by
  simp [Path.parent]

/-- The paths along a path, itself apart, lead along its parent. -/
theorem Path.mem_fronts_parent {path front : Path} (h : front ∈ path.fronts) (hne : front ≠ path) :
    front ∈ path.parent.fronts := by
  obtain ⟨origin, names⟩ := path
  rcases List.eq_nil_or_concat' names with rfl | ⟨names, name, rfl⟩
  · exact h
  · rw [Path.parent_concat]
    rcases Path.mem_fronts_concat_iff.1 h with h | rfl
    · exact h
    · exact absurd rfl hne

theorem Path.IsUsable.parent {path : Path} (h : path.IsUsable) : path.parent.IsUsable := by
  obtain ⟨origin, names⟩ := path
  rcases List.eq_nil_or_concat' names with rfl | ⟨names, name, rfl⟩
  · exact h
  · rw [Path.parent_concat]
    exact h.of_concat

/-- **When a file is opened** in directories that are made for it. -/
theorem opens_iff {path : Path} :
    Opens files path ↔
      ∃ made place, files.makeDirectories path.parent = (made, .ok ()) ∧
        made.target path = .ok place := by
  rw [← opensIn_iff]
  constructor
  · intro h
    exact ⟨h.usable.parent, h.clear, h.usable,
      fun front hfront hne => .inl ⟨front, Path.mem_fronts_parent hfront hne, rfl⟩, h.noDirectory,
        h.away⟩
  · intro h
    exact ⟨h.usable, h.clear, h.noDirectory, h.away⟩

end Winnow.Files
