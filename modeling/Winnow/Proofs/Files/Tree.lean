import Mathlib
import Winnow.Files.Tree
import Winnow.Proofs.Outcome
import Winnow.Proofs.Text.Encoding

/-!
# What the tree of files keeps

A file that was written is read back as long as its place is left alone and directories stay
directories. A write that fails leaves the beginning of the text at its place. Places are told apart
by the endings of their last names.

* `EndsIn` — lists of names of which the last has a given ending.
* `endsIn_child`, `endsIn_locate` — the ending of a name passes to the path and to its place.
* `Keeps` — trees in which the directories and files of another are still directories and files.
* `locate_of_keeps` — a path leads to its place as long as directories stay.
* `HasRoom`, `taken_eq_iff` — a file takes a text if there is room for it.
* `append_of_file`, `write_of_target` — what is done to a file, and how that ends.
* `Filed`, `exists_filed` — what becomes of a text that is put at the end of a file.
* `write_eq_ok_iff`, `exists_of_write_error` — when a write succeeds, and what one that fails
  leaves.
* `read_of_write` — what was written is read back.
* `SameBut`, `OnlyDirectories` — trees that are the same but for the files at some places, and but
  for new directories.
* `onlyDirectories_makeDirectories` — what making directories leaves alone.
* `HoldsCut`, `Spoilt` — files that hold no more than the beginning of a text.
* `SameTexts`, `sameTexts_makeDirectories` — making directories changes no text.
-/

namespace Winnow.Files

/-! ## Endings -/

/-- The last of some names has an ending. -/
def EndsIn (ending : List CodePoint) (names : List Text) : Prop :=
  ∃ stem, names.getLast? = some (Text.ofList (stem ++ ending))

/-- Endings that stand inside one name, and that no dots alone can have. -/
structure IsEnding (ending : List CodePoint) : Prop where
  noSlash : .char '/' ∉ ending
  long : 2 < ending.length

/-- Endings with different last characters belong to different names. -/
theorem EndsIn.disjoint {ending ending' : List CodePoint} {names : List Text}
    (h : EndsIn ending names) (h' : EndsIn ending' names) (hne : ending ≠ [])
    (hne' : ending' ≠ []) :
    ending.getLast? = ending'.getLast? := by
  obtain ⟨stem, hstem⟩ := h
  obtain ⟨stem', hstem'⟩ := h'
  rw [hstem] at hstem'
  have hlist : stem ++ ending = stem' ++ ending' := Text.ofList_injective (Option.some.inj hstem')
  have hlast := congrArg List.getLast? hlist
  rwa [List.getLast?_append_of_ne_nil _ hne, List.getLast?_append_of_ne_nil _ hne'] at hlast

/-- A name does not have two endings of one length. -/
theorem EndsIn.eq_of_length {ending ending' : List CodePoint} {names : List Text}
    (h : EndsIn ending names) (h' : EndsIn ending' names)
    (hlength : ending.length = ending'.length) :
    ending = ending' := by
  obtain ⟨stem, hstem⟩ := h
  obtain ⟨stem', hstem'⟩ := h'
  rw [hstem] at hstem'
  have hlist : stem ++ ending = stem' ++ ending' := Text.ofList_injective (Option.some.inj hstem')
  exact (List.append_inj' hlist hlength).2

theorem splitSlashFrom_of_notMem {part s : List CodePoint} (h : .char '/' ∉ s) :
    Path.splitSlashFrom part s = [part.reverse ++ s] := by
  induction s generalizing part with
  | nil => simp [Path.splitSlashFrom]
  | cons c s ih =>
      rw [List.mem_cons, not_or] at h
      rw [Path.splitSlashFrom, ih h.2, List.reverse_cons, List.append_assoc, List.singleton_append]
      exact fun hc => h.1 hc.symm

/-- What ends a text ends its last part. -/
theorem exists_splitSlashFrom_append {ending : List CodePoint} (h : .char '/' ∉ ending)
    (part s : List CodePoint) :
    ∃ parts last, Path.splitSlashFrom part (s ++ ending) = parts ++ [last ++ ending] := by
  induction s generalizing part with
  | nil => exact ⟨[], part.reverse, splitSlashFrom_of_notMem h⟩
  | cons c s ih =>
      by_cases hc : c = '/'
      · subst hc
        obtain ⟨parts, last, hparts⟩ := ih []
        exact ⟨part.reverse :: parts, last,
          by rw [List.cons_append, Path.splitSlashFrom, hparts]; rfl⟩
      · obtain ⟨parts, last, hparts⟩ := ih (c :: part)
        exact ⟨parts, last, by rw [List.cons_append, Path.splitSlashFrom, hparts]; exact hc⟩

theorem IsEnding.isName {ending : List CodePoint} (h : IsEnding ending) (stem : List CodePoint) :
    Path.isName (stem ++ ending) = true := by
  have hlong := h.long
  have hlength : (stem ++ ending).length = stem.length + ending.length := List.length_append
  simp only [Path.isName, Bool.and_eq_true, decide_eq_true_eq]
  constructor
  · intro hnil
    rw [hnil, List.length_nil] at hlength
    omega
  · intro hdot
    rw [hdot, List.length_singleton] at hlength
    omega

/-- A name that has an ending does not lead one level up. -/
theorem IsEnding.ne_dots {ending : List CodePoint} (h : IsEnding ending) (stem : List CodePoint) :
    Text.ofList (stem ++ ending) ≠ ".." := by
  intro hdots
  have hlist : stem ++ ending = [.char '.', .char '.'] := Text.ofList_injective hdots
  have hlength := congrArg List.length hlist
  have hlong := h.long
  simp only [List.length_append, List.length_cons, List.length_nil] at hlength
  omega

theorem endsIn_namesL {ending : List CodePoint} (h : IsEnding ending) (s : List CodePoint) :
    EndsIn ending (Path.namesL (s ++ ending)) := by
  obtain ⟨parts, last, hparts⟩ := exists_splitSlashFrom_append h.noSlash [] s
  refine ⟨last, ?_⟩
  rw [Path.namesL, hparts, List.filter_append, List.filter_cons_of_pos (h.isName last),
    List.filter_nil, List.map_append, List.map_singleton, List.getLast?_concat]

/-- The ending of a text is that of the path to it. -/
theorem endsIn_child {ending : List CodePoint} (h : IsEnding ending) (p : Path) {name : Text}
    {stem : List CodePoint} (hname : name.toList = stem ++ ending) :
    EndsIn ending (p.child name).names := by
  have hnames : EndsIn ending (Path.ofText name).names := by
    rw [Path.ofText, hname]
    exact endsIn_namesL h stem
  unfold Path.child Path.join
  split_ifs
  · obtain ⟨last, hlast⟩ := hnames
    exact ⟨last, by rw [List.getLast?_append, hlast]; rfl⟩
  · exact hnames

theorem endsIn_walk {ending : List CodePoint} (h : IsEnding ending) {files : Files}
    {names : List Text}
    {l place : Location} (hwalk : files.walk l names = .ok place) (hnames : EndsIn ending names) :
    EndsIn ending place.names := by
  induction names generalizing l with
  | nil =>
      obtain ⟨stem, hstem⟩ := hnames
      cases hstem
  | cons name rest ih =>
      unfold walk at hwalk
      by_cases hshort : isShortName name = true
      · rw [hshort, Bool.not_true, if_neg Bool.false_ne_true] at hwalk
        by_cases hrest : rest = []
        · subst hrest
          rw [if_pos rfl] at hwalk
          obtain rfl := Except.ok.inj hwalk
          obtain ⟨stem, hstem⟩ := hnames
          obtain rfl : name = Text.ofList (stem ++ ending) := Option.some.inj hstem
          refine ⟨stem, ?_⟩
          rw [Location.child, if_pos (h.ne_dots stem), List.getLast?_concat]
        · rw [if_neg hrest] at hwalk
          obtain ⟨stem, hstem⟩ := hnames
          rw [List.getLast?_cons_of_ne_nil hrest] at hstem
          split at hwalk
          · cases hwalk
          · cases hwalk
          · exact ih hwalk ⟨stem, hstem⟩
      · rw [Bool.not_eq_true] at hshort
        rw [hshort, Bool.not_false, if_pos rfl] at hwalk
        cases hwalk

/-- A path that can be handed to the system leads to the place that its names lead to. -/
theorem locate_eq_ok_iff {files : Files} {path : Path} {place : Location} :
    files.locate path = .ok place ↔
      refusal? path = none ∧
        files.walk (Location.ofOrigin path.origin) path.names = .ok place := by
  unfold locate
  cases refusal? path with
  | some kind => simp
  | none => cases files.walk (Location.ofOrigin path.origin) path.names <;> simp

theorem walk_of_locate {files : Files} {path : Path} {place : Location}
    (h : files.locate path = .ok place) :
    files.walk (Location.ofOrigin path.origin) path.names = .ok place :=
  (locate_eq_ok_iff.1 h).2

/-- The ending of a path is that of the place that it leads to. -/
theorem endsIn_locate {ending : List CodePoint} (h : IsEnding ending) {files : Files} {path : Path}
    {place : Location} (hlocate : files.locate path = .ok place)
    (hpath : EndsIn ending path.names) :
    EndsIn ending place.names :=
  endsIn_walk h (walk_of_locate hlocate) hpath

/-! ## Paths and directories -/

/-- What was a directory in one tree is a directory in another, and what was a file is a file. There
is as much room as before. -/
structure Keeps (files later : Files) : Prop where
  directory : ∀ k, files.get? k = some .directory → later.get? k = some .directory
  file : ∀ k, (∃ text, files.get? k = some (.file text)) → ∃ text, later.get? k = some (.file text)
  rooms : later.rooms = files.rooms

theorem Keeps.refl (files : Files) : Keeps files files := ⟨fun _ h => h, fun _ h => h, rfl⟩

theorem Keeps.trans {a b c : Files} (h : Keeps a b) (h' : Keeps b c) : Keeps a c :=
  ⟨fun k hk => h'.directory k (h.directory k hk), fun k hk => h'.file k (h.file k hk),
    h'.rooms.trans h.rooms⟩

theorem walk_of_keeps {files later : Files} (hkeep : Keeps files later)
    {names : List Text} {l place : Location} (h : files.walk l names = .ok place) :
    later.walk l names = .ok place := by
  induction names generalizing l with
  | nil => exact h
  | cons name rest ih =>
      unfold walk at h ⊢
      split_ifs at h ⊢
      · exact h
      · split at h
        · cases h
        · cases h
        · next hdirectory =>
            rw [hkeep.directory _ hdirectory]
            exact ih h

/-- A path leads to its place as long as directories stay. -/
theorem locate_of_keeps {files later : Files} (hkeep : Keeps files later)
    {path : Path} {place : Location} (h : files.locate path = .ok place) :
    later.locate path = .ok place := by
  obtain ⟨hrefusal, hwalk⟩ := locate_eq_ok_iff.1 h
  exact locate_eq_ok_iff.2 ⟨hrefusal, walk_of_keeps hkeep hwalk⟩

theorem names_ne_nil_of_get? {files : Files} {l : Location} (h : files.get? l ≠ some .directory) :
    l.names ≠ [] := by
  intro hnames
  rw [get?, if_pos hnames] at h
  exact h rfl

/-- A file that stands at a place is one of the entries. -/
theorem mem_entries_of_get? {files : Files} {l : Location} {text : String}
    (h : files.get? l = some (.file text)) : (l, .file text) ∈ files.entries := by
  unfold get? at h
  split_ifs at h
  · cases h
  · obtain ⟨before, after, hentries, -⟩ := List.lookup_eq_some_iff.1 h
    simp [hentries]

/-- A file may be put where no directory is. -/
theorem keeps_put_file {files : Files} {l : Location} (h : files.get? l ≠ some .directory)
    (text : String) : Keeps files (files.put l (.file text)) where
  directory k hk := by
    rw [get?_put_of_ne]
    · exact hk
    · rintro rfl
      exact h hk
  file k hk := by
    rw [get?_put _ _ _ _ (names_ne_nil_of_get? h)]
    split_ifs
    · exact ⟨text, rfl⟩
    · exact hk
  rooms := rfl

theorem keeps_touch (files : Files) (l : Location) : Keeps files (files.touch l) := by
  unfold touch
  split
  · exact .refl files
  · next hnone => exact keeps_put_file (by rw [hnone]; exact fun h => nomatch h) _

theorem keeps_append (files : Files) (l : Location) (text : Text) :
    Keeps files (files.append l text).1 := by
  unfold append
  split
  · exact .refl files
  · next hfile _ => exact keeps_put_file (by rw [hfile]; exact fun h => nomatch h) _
  · exact .refl files

/-! ## Room for a text -/

/-- There is room for so many bytes in the file at a place. -/
def HasRoom (files : Files) (l : Location) (size : ℕ) : Prop :=
  ∀ room, files.rooms.lookup l = some room → size ≤ room

theorem fitting_isPrefix (room : ℕ) (s : List Char) : fitting room s <+: s := by
  induction s generalizing room with
  | nil => exact List.nil_prefix
  | cons c s ih =>
      rw [fitting]
      split_ifs
      · exact (List.prefix_cons_inj c).2 (ih _)
      · exact List.nil_prefix

/-- All of a text fits where there is room for its bytes. -/
theorem fitting_eq_iff {room : ℕ} {s : List Char} :
    fitting room s = s ↔ String.utf8Len s ≤ room := by
  induction s generalizing room with
  | nil => simp [fitting]
  | cons c s ih =>
      rw [fitting, String.utf8Len_cons]
      split_ifs with hc
      · rw [List.cons_inj_right, ih]
        omega
      · refine iff_of_false (fun h => nomatch h) ?_
        omega

/-- What a file takes of a text is its beginning. -/
theorem taken_isPrefix (files : Files) (l : Location) (before text : String) :
    (files.taken l before text).toList <+: text.toList := by
  unfold taken
  split
  · exact List.prefix_refl _
  · rw [String.toList_ofList]
    exact fitting_isPrefix _ _

/-- A new file takes a text if there is room for it. -/
theorem taken_eq_iff {files : Files} {l : Location} {text : String} :
    files.taken l "" text = text ↔ files.HasRoom l text.utf8ByteSize := by
  unfold taken HasRoom
  cases files.rooms.lookup l with
  | none => simp
  | some room =>
      have hlist : String.ofList (fitting room text.toList) = text ↔
          fitting room text.toList = text.toList := by
        rw [← String.toList_inj, String.toList_ofList]
      simpa [hlist, String.utf8Len_toList] using fitting_eq_iff (s := text.toList)

/-- What a file takes depends on the room alone. -/
theorem taken_congr {files later : Files} (h : later.rooms = files.rooms) (l : Location)
    (before text : String) : later.taken l before text = files.taken l before text := by
  rw [taken, taken, h]

/-! ## Reading what was written -/

/-- A path leads to a file with a text. -/
def Holds (files : Files) (path : Path) (text : String) : Prop :=
  ∃ place, files.locate path = .ok place ∧ files.get? place = some (.file text)

/-- The place of a file is the one that its path leads to, where no directory is. -/
theorem eq_of_target {files : Files} {path : Path} {place : Location}
    (h : files.target path = .ok place) :
    files.locate path = .ok place ∧ files.get? place ≠ some .directory := by
  obtain ⟨place', hlocate, h⟩ := exists_of_bind_eq_ok h
  split at h
  · cases h
  · next hdirectory =>
      obtain rfl := Except.ok.inj h
      exact ⟨hlocate, hdirectory⟩

/-- A file stands where it was put. -/
theorem get?_put_file {files : Files} {l : Location} (h : files.get? l ≠ some .directory)
    (text : String) : (files.put l (.file text)).get? l = some (.file text) := by
  rw [get?_put _ _ _ _ (names_ne_nil_of_get? h), if_pos rfl]

/-- Where no directory is, there is a file once it was made sure of. -/
theorem exists_get?_touch {files : Files} {l : Location} (h : files.get? l ≠ some .directory) :
    ∃ text, (files.touch l).get? l = some (.file text) := by
  unfold touch
  split
  · next entry hentry =>
      cases entry with
      | directory => exact absurd hentry h
      | file text => exact ⟨text, hentry⟩
  · exact ⟨_, get?_put_file h ""⟩

/-- **What is put at the end of a file** is there as far as there is room, if it can be encoded. -/
theorem append_of_file {files : Files} {l : Location} {before : String}
    (h : files.get? l = some (.file before)) (text : Text) :
    files.append l text =
      match text.encode with
      | .error fault => (files, .error (.unencodable fault))
      | .ok text =>
          (files.put l (.file (before ++ files.taken l before text)),
            if files.taken l before text = text then .ok () else .error .full) := by
  rw [append, h]
  cases text.encode <;> rfl

/-- What becomes of a text that is put at the end of a file: the part of it that is there, and why
that is not all of it. -/
inductive Filed (files : Files) (l : Location) (text : Text) : String → Option FileErrorKind → Prop
  | whole {string : String} (h : text = Text.ofString string) : Filed files l text string none
  /-- It cannot be encoded, so nothing of it is there. -/
  | unencodable {fault : Text.Fault} (h : text.encode = .error fault) :
      Filed files l text "" (some (.unencodable fault))
  /-- There is room for its beginning only. -/
  | full {string part : String} (h : text = Text.ofString string)
      (hpart : part.toList <+: string.toList) (hne : part ≠ string)
      (hroom : ∃ room, files.rooms.lookup l = some room) : Filed files l text part (some .full)

/-- What becomes of a text depends on the room alone. -/
theorem Filed.congr {files later : Files} {l : Location} {text : Text} {part : String}
    {cause? : Option FileErrorKind} (h : Filed later l text part cause?)
    (hrooms : later.rooms = files.rooms) : Filed files l text part cause? := by
  cases h with
  | whole h => exact .whole h
  | unencodable h => exact .unencodable h
  | full h hpart hne hroom => exact .full h hpart hne (hrooms ▸ hroom)

/-- A part is left out only where there is not room for everything. -/
theorem exists_room_of_taken_ne {files : Files} {l : Location} {before text : String}
    (h : files.taken l before text ≠ text) : ∃ room, files.rooms.lookup l = some room := by
  unfold taken at h
  split at h
  · exact absurd rfl h
  · next room hroom => exact ⟨room, hroom⟩

/-- **A text that is put at the end of a file** comes after its text, as far as it gets in. -/
theorem exists_filed {files : Files} {l : Location} {before : String}
    (h : files.get? l = some (.file before)) (text : Text) :
    ∃ part cause?, Filed files l text part cause? ∧
      (files.append l text).1.get? l = some (.file (before ++ part)) ∧
      (files.append l text).2 =
        (match cause? with | none => .ok () | some cause => .error cause) := by
  have hne : files.get? l ≠ some .directory := by rw [h]; exact fun h => nomatch h
  rw [append_of_file h]
  cases htext : text.encode with
  | error fault => exact ⟨"", _, .unencodable htext, by rw [h, String.append_empty], rfl⟩
  | ok string =>
      have hstring := Text.encode_eq_ok_iff.1 htext
      have hfile := get?_put_file hne (before ++ files.taken l before string)
      by_cases htaken : files.taken l before string = string
      · have hwhole : text = Text.ofString (files.taken l before string) := by rw [htaken, hstring]
        exact ⟨_, none, .whole hwhole, hfile, if_pos htaken⟩
      · exact ⟨_, _, .full hstring (taken_isPrefix files l before string) htaken
          (exists_room_of_taken_ne htaken), hfile, if_neg htaken⟩

/-- Where something could not be put at the end of a file, it cannot be encoded, or there is not
room for everything. -/
theorem append_error_cases {files : Files} {l : Location} {text : Text} {cause : FileErrorKind}
    (h : (files.append l text).2 = .error cause) :
    (∃ fault, text.encode = .error fault ∧ cause = .unencodable fault) ∨
      cause = .full ∧ ∃ room, files.rooms.lookup l = some room := by
  unfold append at h
  split at h
  · next fault _ htext => exact .inl ⟨fault, htext, (Except.error.inj h).symm⟩
  · dsimp only at h
    split_ifs at h with htaken
    exact .inr ⟨(Except.error.inj h).symm, exists_room_of_taken_ne htaken⟩
  · cases h

theorem put_put (files : Files) (l : Location) (first second : Entry) :
    (files.put l first).put l second = files.put l second := by
  have hentries : ∀ entries, putEntry l second (putEntry l first entries) =
      putEntry l second entries := by
    intro entries
    induction entries with
    | nil => simp [putEntry]
    | cons place rest ih =>
        obtain ⟨k, old⟩ := place
        by_cases h : k = l <;> simp [putEntry, h, ih]
  rw [put, put, put, hentries]

/-- **What a write does** to the file at its path. -/
theorem write_of_target {files : Files} {path : Path} {place : Location}
    (h : files.target path = .ok place) (text : Text) :
    files.write path text =
      match text.encode with
      | .error fault => (files.put place (.file ""), .error ⟨.unencodable fault, path⟩)
      | .ok text =>
          (files.put place (.file (files.taken place "" text)),
            if files.taken place "" text = text then .ok () else .error ⟨.full, path⟩) := by
  have hopened := get?_put_file (eq_of_target h).2 ""
  rw [write, h]
  simp only [append_of_file hopened]
  cases text.encode with
  | error fault => rfl
  | ok text =>
      have htaken : (files.put place (.file "")).taken place "" text = files.taken place "" text :=
        taken_congr rfl _ _ _
      simp only [htaken, put_put, String.empty_append]
      split_ifs <;> rfl

/-- A path that leads to no place for a file leaves all as it is. -/
theorem write_of_target_error {files : Files} {path : Path} {e : FileError}
    (h : files.target path = .error e) (text : Text) :
    files.write path text = (files, .error e) := by
  rw [write, h]

/-- **When a write succeeds**: the path leads to a place for a file, there is room for the text, and
it holds no half that stands alone. -/
theorem write_eq_ok_iff {files written : Files} {path : Path} {text : Text} :
    files.write path text = (written, .ok ()) ↔
      ∃ place string, files.target path = .ok place ∧ text = Text.ofString string ∧
        files.HasRoom place string.utf8ByteSize ∧ written = files.put place (.file string) := by
  cases htarget : files.target path with
  | error e => simp [write_of_target_error htarget]
  | ok place =>
      rw [write_of_target htarget]
      cases htext : text.encode with
      | error fault =>
          refine iff_of_false (fun h => nomatch h) ?_
          rintro ⟨_, string, -, rfl, -⟩
          rw [Text.encode_ofString] at htext
          cases htext
      | ok string =>
          obtain rfl := Text.encode_eq_ok_iff.1 htext
          constructor
          · intro h
            obtain ⟨hput, houtcome⟩ := Prod.mk.inj h
            split_ifs at houtcome with htaken
            refine ⟨place, string, rfl, rfl, taken_eq_iff.1 htaken, ?_⟩
            rw [← hput, htaken]
          · rintro ⟨_, _, hplace, hstring, hroom, rfl⟩
            obtain rfl := Except.ok.inj hplace
            obtain rfl := Text.ofString_injective hstring
            simp only [taken_eq_iff.2 hroom, if_true]

/-- **What a write that fails leaves**: all as it was, where the path leads to no place for a file,
or the beginning of the text at its place. -/
theorem exists_of_write_error {files written : Files} {path : Path} {text : Text} {e : FileError}
    (h : files.write path text = (written, .error e)) :
    (files.target path = .error e ∧ written = files) ∨
      ∃ place part, files.target path = .ok place ∧ written = files.put place (.file part) ∧
        (HasHalf text.toList ∧ part = "" ∨ ∃ string, text = Text.ofString string ∧
          part.toList <+: string.toList ∧ ¬files.HasRoom place string.utf8ByteSize) := by
  cases htarget : files.target path with
  | error e' =>
      rw [write_of_target_error htarget] at h
      obtain ⟨rfl, he⟩ := Prod.mk.inj h
      exact .inl ⟨congrArg _ (Except.error.inj he), rfl⟩
  | ok place =>
      right
      rw [write_of_target htarget] at h
      cases htext : text.encode with
      | error fault =>
          rw [htext] at h
          obtain ⟨rfl, -⟩ := Prod.mk.inj h
          exact ⟨place, "", rfl, rfl, .inl ⟨Text.exists_encode_error_iff.1 ⟨fault, htext⟩, rfl⟩⟩
      | ok string =>
          rw [htext] at h
          obtain ⟨rfl, houtcome⟩ := Prod.mk.inj h
          obtain rfl := Text.encode_eq_ok_iff.1 htext
          refine ⟨place, _, rfl, rfl,
            .inr ⟨string, rfl, taken_isPrefix files place "" string, fun hroom => ?_⟩⟩
          rw [taken_eq_iff.2 hroom, if_pos rfl] at houtcome
          cases houtcome

/-- **What was written is read back**, under one line ending, as long as its place is left alone and
directories stay. -/
theorem read_of_write {files written later : Files} {path : Path} {text : Text}
    (h : files.write path text = (written, .ok ())) (hkeep : Keeps written later)
    (hplace : ∀ place, files.locate path = .ok place → later.get? place = written.get? place) :
    later.read path = .ok (Text.joinEndings text) := by
  obtain ⟨place, string, htarget, rfl, -, rfl⟩ := write_eq_ok_iff.1 h
  obtain ⟨hlocate, hdirectory⟩ := eq_of_target htarget
  have hfile : later.get? place = some (.file string) := by
    rw [hplace place hlocate, get?_put_file hdirectory]
  have hlater := locate_of_keeps ((keeps_put_file hdirectory _).trans hkeep) hlocate
  rw [read, hlater]
  simp only [bind, Except.bind, hfile]

/-! ## Trees that are the same but for some places -/

/-- A later tree holds what a tree holds, the places `off` apart: elsewhere nothing is new but
directories. -/
structure SameBut (off : Location → Prop) (files later : Files) : Prop where
  keeps : Keeps files later
  elsewhere : ∀ l, ¬off l →
    later.get? l = files.get? l ∨ files.get? l = none ∧ later.get? l = some .directory

namespace SameBut

variable {off off' : Location → Prop} {a b c : Files}

theorem refl (files : Files) : SameBut off files files := ⟨.refl files, fun _ _ => .inl rfl⟩

theorem mono (h : SameBut off a b) (hoff : ∀ l, off l → off' l) : SameBut off' a b :=
  ⟨h.keeps, fun l hl => h.elsewhere l fun hl' => hl (hoff l hl')⟩

theorem trans (h : SameBut off a b) (h' : SameBut off b c) : SameBut off a c := by
  refine ⟨h.keeps.trans h'.keeps, fun l hl => ?_⟩
  rcases h.elsewhere l hl with hab | ⟨ha, hb⟩
  · rw [← hab]
    exact h'.elsewhere l hl
  · right
    exact ⟨ha, h'.keeps.directory l hb⟩

/-- The files elsewhere are the ones that were there, with their texts. -/
theorem get?_file_iff (h : SameBut off a b) {l : Location} (hl : ¬off l) (text : String) :
    b.get? l = some (.file text) ↔ a.get? l = some (.file text) := by
  rcases h.elsewhere l hl with hsame | ⟨ha, hb⟩
  · rw [hsame]
  · simp [ha, hb]

end SameBut

/-- A tree in which nothing is new but directories. -/
abbrev OnlyDirectories (files later : Files) : Prop := SameBut (fun _ => False) files later

theorem OnlyDirectories.sameBut {off : Location → Prop} {files later : Files}
    (h : OnlyDirectories files later) : SameBut off files later :=
  h.mono fun _ hl => hl.elim

theorem onlyDirectories_put {files : Files} {l : Location} (hl : files.get? l = none) :
    OnlyDirectories files (files.put l .directory) := by
  have hnames : l.names ≠ [] := names_ne_nil_of_get? (by rw [hl]; exact fun h => nomatch h)
  refine ⟨⟨fun k hk => ?_, fun k hk => ?_, rfl⟩, fun k _ => ?_⟩
  · rw [get?_put _ _ _ _ hnames]
    split_ifs
    · rfl
    · exact hk
  · obtain ⟨text, htext⟩ := hk
    rw [get?_put_of_ne]
    · exact ⟨text, htext⟩
    · rintro rfl
      simp [hl] at htext
  · by_cases hk : k = l
    · subst hk
      right
      simp [get?_put _ _ _ _ hnames, hl]
    · left
      exact get?_put_of_ne files _ hk

theorem onlyDirectories_makeDirectory {files made : Files} {path : Path}
    (h : files.makeDirectory path = .ok made) : OnlyDirectories files made := by
  obtain ⟨l, -, h⟩ := exists_of_bind_eq_ok h
  split at h
  · cases h
  · next hl =>
      obtain rfl := Except.ok.inj h
      exact onlyDirectories_put hl

theorem onlyDirectories_ensureDirectory {files made : Files} {path : Path}
    (h : files.ensureDirectory path = .ok made) : OnlyDirectories files made := by
  unfold ensureDirectory at h
  split at h
  · next hmade =>
      obtain rfl := Except.ok.inj h
      exact onlyDirectories_makeDirectory hmade
  · split_ifs at h
    obtain rfl := Except.ok.inj h
    exact .refl _

/-- Making directories, also where it fails on the way, makes nothing else. -/
theorem onlyDirectories_makeAll (origin : Origin) (names : List Text) (files : Files) :
    OnlyDirectories files (makeAll origin names files).1 := by
  induction names generalizing files with
  | nil =>
      rw [makeAll]
      split
      · next hmade => exact onlyDirectories_ensureDirectory hmade
      · exact .refl _
  | cons name above ih =>
      rw [makeAll]
      split
      · next hmade => exact onlyDirectories_ensureDirectory hmade
      · split_ifs
        · have habove := ih files
          split
          · next hmade =>
              rw [hmade] at habove
              exact habove
          · next hmade =>
              rw [hmade] at habove
              split
              · next hlast => exact habove.trans (onlyDirectories_ensureDirectory hlast)
              · exact habove
        · exact .refl _

theorem onlyDirectories_makeDirectories (files : Files) (path : Path) :
    OnlyDirectories files (files.makeDirectories path).1 :=
  onlyDirectories_makeAll _ _ _

/-- A file that is put where no directory is changes its own place only. -/
theorem sameBut_put_file {files : Files} {l : Location} (h : files.get? l ≠ some .directory)
    (text : String) : SameBut (· = l) files (files.put l (.file text)) :=
  ⟨keeps_put_file h text, fun _ hk => .inl (get?_put_of_ne files _ hk)⟩

theorem sameBut_touch (files : Files) (l : Location) : SameBut (· = l) files (files.touch l) :=
  ⟨keeps_touch files l, fun _ hk => .inl (get?_touch_of_ne files hk)⟩

/-- What is put at the end of a file leaves trees alike in which only directories are new. -/
theorem OnlyDirectories.append {files later : Files} (h : OnlyDirectories files later)
    {l : Location} {before : String} (hl : files.get? l = some (.file before)) (text : Text) :
    OnlyDirectories (files.append l text).1 (later.append l text).1 ∧
      (later.append l text).2 = (files.append l text).2 := by
  have hl' : later.get? l = some (.file before) := (h.get?_file_iff not_false before).2 hl
  have hne : files.get? l ≠ some .directory := by rw [hl]; exact fun h => nomatch h
  have hne' : later.get? l ≠ some .directory := by rw [hl']; exact fun h => nomatch h
  rw [append_of_file hl, append_of_file hl']
  cases text.encode with
  | error fault => exact ⟨h, rfl⟩
  | ok string =>
      simp only [taken_congr h.keeps.rooms]
      refine ⟨⟨⟨fun k hk => ?_, fun k hk => ?_, h.keeps.rooms⟩, fun k _ => ?_⟩, trivial⟩ <;>
        by_cases hkl : k = l
      · subst hkl
        rw [get?_put_file hne] at hk
        cases hk
      · rw [get?_put_of_ne _ _ hkl] at hk ⊢
        exact h.keeps.directory k hk
      · subst hkl
        exact ⟨_, get?_put_file hne' _⟩
      · rw [get?_put_of_ne _ _ hkl] at hk ⊢
        exact h.keeps.file k hk
      · subst hkl
        rw [get?_put_file hne, get?_put_file hne']
        exact .inl rfl
      · rw [get?_put_of_ne _ _ hkl, get?_put_of_ne _ _ hkl]
        exact h.elsewhere k not_false

/-- A path leads to a file that did not take a text as a whole: the file is empty, since the text
cannot be encoded, or it holds the beginning of the text, since there is not room for everything. -/
def HoldsCut (files : Files) (path : Path) (text : Text) : Prop :=
  ∃ place part, files.locate path = .ok place ∧ files.get? place = some (.file part) ∧
    (HasHalf text.toList ∧ part = "" ∨ ∃ string, text = Text.ofString string ∧
      part.toList <+: string.toList ∧ ¬files.HasRoom place string.utf8ByteSize)

/-- A file that did not take a text as a whole stays that way as long as its place is left alone. -/
theorem HoldsCut.of_sameBut {off : Location → Prop} {files later : Files} {path : Path}
    {text : Text}
    (h : files.HoldsCut path text) (hsame : SameBut off files later)
    (hoff : ∀ place, files.locate path = .ok place → ¬off place) : later.HoldsCut path text := by
  obtain ⟨place, part, hlocate, hfile, hcut⟩ := h
  refine ⟨place, part, locate_of_keeps hsame.keeps hlocate,
    (hsame.get?_file_iff (hoff place hlocate) part).2 hfile, ?_⟩
  unfold HasRoom at hcut ⊢
  rwa [hsame.keeps.rooms]

/-- A text was to be written to the file at a path and did not get in as a whole, and nothing else
is new but directories. -/
structure Spoilt (path : Path) (text : Text) (files later : Files) : Prop where
  cut : later.HoldsCut path text
  same : SameBut (fun l => later.locate path = .ok l) files later

/-- Where a write fails, nothing is new but directories that were made for it, or the file is
spoilt. -/
theorem OnlyDirectories.cases_of_write_error {files made written : Files} {path : Path}
    {text : Text}
    {e : FileError} (honly : OnlyDirectories files made)
    (h : made.write path text = (written, .error e)) :
    OnlyDirectories files written ∨ Spoilt path text files written := by
  rcases exists_of_write_error h with ⟨-, rfl⟩ | ⟨place, part, htarget, rfl, hcut⟩
  · exact .inl honly
  · right
    obtain ⟨hlocate, hdirectory⟩ := eq_of_target htarget
    have hput := sameBut_put_file hdirectory part
    have hlater := locate_of_keeps hput.keeps hlocate
    refine ⟨⟨place, part, hlater, get?_put_file hdirectory part, hcut⟩, ?_⟩
    refine honly.sameBut.trans (hput.mono ?_)
    rintro l rfl
    exact hlater

/-! ## Texts -/

/-- Two trees hold the same texts, empty files apart. -/
def SameTexts (files made : Files) : Prop :=
  ∀ l text, text ≠ "" → (made.get? l = some (.file text) ↔ files.get? l = some (.file text))

theorem SameTexts.refl (files : Files) : SameTexts files files := fun _ _ _ => Iff.rfl

theorem SameTexts.trans {a b c : Files} (h : SameTexts a b) (h' : SameTexts b c) : SameTexts a c :=
  fun l text htext => (h' l text htext).trans (h l text htext)

/-- Making directories changes no text. -/
theorem sameTexts_makeDirectories (files : Files) (path : Path) :
    SameTexts files (files.makeDirectories path).1 :=
  fun _ text _ => (onlyDirectories_makeDirectories files path).get?_file_iff not_false text

/-- Making sure of a file changes no text. -/
theorem sameTexts_touch (files : Files) (l : Location) : SameTexts files (files.touch l) := by
  intro k text htext
  unfold touch
  split
  · exact Iff.rfl
  · next hl =>
      have hne : files.get? l ≠ some .directory := by rw [hl]; exact fun h => nomatch h
      by_cases hk : k = l
      · subst hk
        rw [get?_put_file hne, hl]
        simp [Ne.symm htext]
      · rw [get?_put_of_ne _ _ hk]

/-! ## One place for a path -/

theorem walk_unique {a b : Files} {names : List Text} {l p q : Location}
    (ha : a.walk l names = .ok p) (hb : b.walk l names = .ok q) : p = q := by
  induction names generalizing l with
  | nil => exact (Except.ok.inj ha).symm.trans (Except.ok.inj hb)
  | cons name rest ih =>
      unfold walk at ha hb
      split_ifs at ha hb
      · exact (Except.ok.inj ha).symm.trans (Except.ok.inj hb)
      · split at ha
        · cases ha
        · cases ha
        · split at hb
          · cases hb
          · cases hb
          · exact ih ha hb

/-- A path leads to the same place in any trees in which it leads anywhere. -/
theorem locate_unique {a b : Files} {path : Path} {p q : Location} (ha : a.locate path = .ok p)
    (hb : b.locate path = .ok q) : p = q :=
  walk_unique (walk_of_locate ha) (walk_of_locate hb)

/-- What is read is the text of the file at the path, under one line ending. -/
theorem exists_of_read {files : Files} {path : Path} {text : Text}
    (h : files.read path = .ok text) :
    ∃ l whole, files.locate path = .ok l ∧ files.get? l = some (.file whole) ∧
      text = Text.joinEndings whole := by
  obtain ⟨l, hlocate, h⟩ := exists_of_bind_eq_ok h
  split at h
  · cases h
  · cases h
  · next whole hfile => exact ⟨l, whole, hlocate, hfile, (Except.ok.inj h).symm⟩

end Winnow.Files
