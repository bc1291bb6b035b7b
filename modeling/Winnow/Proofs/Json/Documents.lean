import Winnow.Proofs.Json.Entries
import Winnow.Proofs.Json.Numbers
import Winnow.Proofs.Json.Strings
import Winnow.Proofs.Outcome

/-!
# Documents are read back

What is written of a document, on one line or with every item on a line of its own, is read as that
document.

* `Number.written`, `Value.written` — numbers and documents as their texts tell them.
* `Value.IsProper` — documents in which no object has a key twice.
* `Layout.IsReadable` — layouts whose marks the reader knows, with blanks after them;
  `Layout.IsIndented` — the ones with every item on a line of its own.
* `Value.levels` — how many arrays and objects stand in each other in a value.
* `writeValue_array_cases`, `writeValue_object_cases` — the parts of what is written of arrays and
  objects.
* `readItems_writeItems`, `readPairs_writeEntries` — what stands between brackets and braces.
* `readValue_writeValue`, `readL_write` — values and whole texts.
-/

namespace Winnow

/-! ## Numbers -/

/-- A number as its text tells it: all outcomes that are not numbers are written alike. -/
def Number.written : Number → Number
  | .undefined _ => .float (0.0 / 0.0)
  | n => n

theorem readNumber_numberWrite {n : Number} {text rest : List CodePoint} (h : n.write = .ok text)
    (hrest : Json.EndsNumber rest) :
    Json.readNumber (text ++ rest) = .ok (n.written, rest) := by
  cases n with
  | int n =>
      rw [Number.write] at h
      split_ifs at h with hn
      obtain rfl := Except.ok.inj h
      exact Json.readNumber_writeInt hn hrest
  | float x =>
      obtain rfl := Except.ok.inj h
      exact Json.readNumber_write x hrest
  | undefined origin =>
      obtain rfl := Except.ok.inj h
      rfl

namespace Json

/-! ## Blank space -/

theorem eq_of_isSpace {c : CodePoint} (h : isSpace c = true) :
    c = ' ' ∨ c = '\t' ∨ c = '\n' ∨ c = '\r' := by
  simpa only [isSpace, Bool.or_eq_true, decide_eq_true_eq, or_assoc] using h

theorem skipSpace_append {blank : List CodePoint} (h : ∀ c ∈ blank, isSpace c = true)
    (s : List CodePoint) :
    skipSpace (blank ++ s) = skipSpace s :=
  List.dropWhile_append_of_pos h

/-- Blank space may follow a number. -/
theorem EndsNumber.blank_append {blank rest : List CodePoint} (h : ∀ c ∈ blank, isSpace c = true)
    (hrest : EndsNumber rest) : EndsNumber (blank ++ rest) := by
  cases blank with
  | nil => exact hrest
  | cons b blank =>
      intro c hc
      obtain rfl := Option.some.inj hc
      rcases eq_of_isSpace (h b List.mem_cons_self) with rfl | rfl | rfl | rfl <;> decide

theorem endsNumber_cons {c : CodePoint} (hdigit : c.isDigit = false) (hpoint : c ≠ '.')
    (he : c ≠ 'e')
    (hE : c ≠ 'E') (rest : List CodePoint) : EndsNumber (c :: rest) := by
  intro c' hc
  obtain rfl := Option.some.inj hc
  exact ⟨hdigit, hpoint, he, hE⟩

/-- A value that starts as a number does is a number. -/
theorem readValue_of_readNumber {s rest : List CodePoint} {n : Number}
    (h : readNumber s = .ok (n, rest)) (depth room : ℕ) :
    readValue (depth + 1) room s = .ok (.number n, rest) := by
  unfold readValue
  split
  case h_7 =>
    rw [h]
    rfl
  all_goals exact absurd h (by intro h'; cases h')

/-- No blank space stands at the head of a value. -/
theorem skipSpace_of_readValue {s rest : List CodePoint} {v : Document} {depth room : ℕ}
    (h : readValue (depth + 1) room s = .ok (v, rest)) : skipSpace s = s := by
  cases s with
  | nil => rfl
  | cons c cs =>
      by_cases hc : isSpace c = true
      · rcases eq_of_isSpace hc with rfl | rfl | rfl | rfl <;> cases h
      · exact List.dropWhile_cons_of_neg hc

theorem writeString_eq (s rest : List CodePoint) :
    writeString false s ++ rest =
      .char '"' :: (s.flatMap (writeChar false) ++ .char '"' :: rest) := by
  simp [writeString]

/-! ## Documents as their texts tell them -/

mutual

/-- A document as its text tells it: every number as the text of the number tells it. -/
def Value.written : Document → Document
  | .number n => .number n.written
  | .array items => .array (writtenItems items)
  | .object entries => .object (writtenEntries entries)
  | d => d

/-- Items as their texts tell them. -/
def writtenItems : List Document → List Document
  | [] => []
  | item :: items => item.written :: writtenItems items

/-- Entries as their texts tell them. -/
def writtenEntries : List (Text × Document) → List (Text × Document)
  | [] => []
  | (key, value) :: entries => (key, value.written) :: writtenEntries entries

end

theorem writtenItems_eq_map (items : List Document) :
    writtenItems items = items.map Value.written := by
  induction items with
  | nil => rw [writtenItems, List.map_nil]
  | cons item items ih => rw [writtenItems, ih, List.map_cons]

theorem writtenEntries_eq_map (entries : List (Text × Document)) :
    writtenEntries entries = entries.map fun entry => (entry.1, entry.2.written) := by
  induction entries with
  | nil => rw [writtenEntries, List.map_nil]
  | cons entry entries ih => rw [writtenEntries, ih, List.map_cons]

/-- A document in which no object has a key twice. -/
inductive Value.IsProper : Document → Prop
  | null : IsProper .null
  | bool (b : Bool) : IsProper (.bool b)
  | number (n : Number) : IsProper (.number n)
  | text (s : Text) : IsProper (.text s)
  | array {items : List Document} (h : ∀ item ∈ items, IsProper item) : IsProper (.array items)
  | object {entries : List (Text × Document)} (hkeys : (entries.map Prod.fst).Nodup)
      (h : ∀ entry ∈ entries, IsProper entry.2) : IsProper (.object entries)

/-! ## Layouts -/

/-- A layout whose marks the reader knows, with only blank space after them, and in which characters
outside ASCII stand as they are. -/
structure Layout.IsReadable {κ α : Type} (l : Layout κ α) : Prop where
  itemMark : ∃ blank, l.itemMark = .char ',' :: blank ∧ ∀ c ∈ blank, isSpace c = true
  keyMark : ∃ blank, l.keyMark = .char ':' :: blank ∧ ∀ c ∈ blank, isSpace c = true
  asciiOnly : l.asciiOnly = false

/-- A layout in which every item stands on a line of its own, `width` blanks per level. -/
structure Layout.IsIndented {κ α : Type} (l : Layout κ α) (width : ℕ) : Prop where
  indent : l.indent = some width
  itemMark : l.itemMark = [.char ',']
  keyMark : l.keyMark = [.char ':', .char ' ']
  asciiOnly : l.asciiOnly = false

theorem Layout.IsIndented.isReadable {κ α : Type} {l : Layout κ α} {width : ℕ}
    (h : l.IsIndented width) : l.IsReadable where
  itemMark := ⟨[], h.itemMark, by simp⟩
  keyMark := ⟨[.char ' '], h.keyMark, by simp [isSpace]⟩
  asciiOnly := h.asciiOnly

theorem Layout.isSpace_of_mem_lineBreak {κ α : Type} (l : Layout κ α) (level : ℕ) :
    ∀ c ∈ l.lineBreak level, isSpace c = true := by
  intro c hc
  unfold Layout.lineBreak at hc
  split at hc
  · cases hc
  · rcases List.mem_cons.1 hc with rfl | hc
    · rfl
    · rw [List.eq_of_mem_replicate hc]
      rfl

/-! ## Levels -/

section

variable {κ α : Type}

mutual

/-- How many arrays and objects stand in each other in a value. -/
def Value.levels : Value κ α → ℕ
  | .array items => itemsLevels items + 1
  | .object entries => entriesLevels entries + 1
  | _ => 0

/-- How many of them stand in each other in the items of an array. -/
def itemsLevels : List (Value κ α) → ℕ
  | [] => 0
  | item :: items => max item.levels (itemsLevels items)

/-- How many of them stand in each other in the values of an object. -/
def entriesLevels : List (κ × Value κ α) → ℕ
  | [] => 0
  | (_, value) :: entries => max value.levels (entriesLevels entries)

end

theorem levels_le_itemsLevels {item : Value κ α} {items : List (Value κ α)} (h : item ∈ items) :
    item.levels ≤ itemsLevels items := by
  induction items with
  | nil => cases h
  | cons next items ih =>
      rw [itemsLevels]
      rcases List.mem_cons.1 h with rfl | h
      · exact le_max_left _ _
      · exact (ih h).trans (le_max_right _ _)

theorem levels_le_entriesLevels {entry : κ × Value κ α} {entries : List (κ × Value κ α)}
    (h : entry ∈ entries) : entry.2.levels ≤ entriesLevels entries := by
  induction entries with
  | nil => cases h
  | cons next entries ih =>
      rw [entriesLevels]
      rcases List.mem_cons.1 h with rfl | h
      · exact le_max_left _ _
      · exact (ih h).trans (le_max_right _ _)

theorem entriesLevels_le_iff {entries : List (κ × Value κ α)} {n : ℕ} :
    entriesLevels entries ≤ n ↔ ∀ entry ∈ entries, entry.2.levels ≤ n := by
  refine ⟨fun h entry hentry => (levels_le_entriesLevels hentry).trans h, fun h => ?_⟩
  induction entries with
  | nil => exact Nat.zero_le _
  | cons entry entries ih =>
      obtain ⟨hentry, hentries⟩ := List.forall_mem_cons.1 h
      exact max_le hentry (ih hentries)

end

/-! ## What is written of arrays and objects -/

section

variable {κ α : Type} [WritableKey κ] {l : Layout κ α} {level : ℕ} {text : List CodePoint}

/-- The items after the first are written one by one, each with the mark and the line break before
it. -/
theorem exists_of_writeItems_cons {item : Value κ α} {items : List (Value κ α)}
    (h : writeItems l level (item :: items) = .ok text) :
    ∃ first others, writeValue l level item = .ok first ∧ writeItems l level items = .ok others ∧
      text = l.itemMark ++ l.lineBreak level ++ first ++ others := by
  obtain ⟨first, hfirst, h⟩ := exists_of_bind_eq_ok h
  obtain ⟨others, hothers, h⟩ := exists_of_bind_eq_ok h
  exact ⟨first, others, hfirst, hothers, (Except.ok.inj h).symm⟩

/-- So are the entries after the first. -/
theorem exists_of_writeEntries_cons {entry : κ × Value κ α} {entries : List (κ × Value κ α)}
    (h : writeEntries l level (entry :: entries) = .ok text) :
    ∃ name first others, writeKey l entry.1 = .ok name ∧ writeValue l level entry.2 = .ok first ∧
      writeEntries l level entries = .ok others ∧
      text = l.itemMark ++ l.lineBreak level ++ name ++ first ++ others := by
  obtain ⟨name, hname, h⟩ := exists_of_bind_eq_ok h
  obtain ⟨first, hfirst, h⟩ := exists_of_bind_eq_ok h
  obtain ⟨others, hothers, h⟩ := exists_of_bind_eq_ok h
  exact ⟨name, first, others, hname, hfirst, hothers, (Except.ok.inj h).symm⟩

/-- The text of an array is two brackets, or it has its items one after the other between them. -/
theorem writeValue_array_cases {items : List (Value κ α)}
    (h : writeValue l level (.array items) = .ok text) :
    items = [] ∧ text = [.char '[', .char ']'] ∨
      ∃ item more first others, items = item :: more ∧
        writeValue l (level + 1) item = .ok first ∧ writeItems l (level + 1) more = .ok others ∧
        text = .char '[' :: (l.lineBreak (level + 1) ++ first ++ others ++ l.lineBreak level ++
          [.char ']']) := by
  cases items with
  | nil =>
      obtain ⟨_, -, h⟩ := exists_of_bind_eq_ok h
      exact .inl ⟨rfl, (Except.ok.inj h).symm⟩
  | cons item more =>
      obtain ⟨_, -, h⟩ := exists_of_bind_eq_ok h
      obtain ⟨first, hfirst, h⟩ := exists_of_bind_eq_ok h
      obtain ⟨others, hothers, h⟩ := exists_of_bind_eq_ok h
      exact .inr ⟨item, more, first, others, rfl, hfirst, hothers, (Except.ok.inj h).symm⟩

/-- The text of an object is two braces, or it has its keys and values one after the other between
them. -/
theorem writeValue_object_cases {entries : List (κ × Value κ α)}
    (h : writeValue l level (.object entries) = .ok text) :
    entries = [] ∧ text = [.char '\x7b', .char '\x7d'] ∨
      ∃ entry more name first others, entries = entry :: more ∧
        writeKey l entry.1 = .ok name ∧ writeValue l (level + 1) entry.2 = .ok first ∧
        writeEntries l (level + 1) more = .ok others ∧
        text = .char '\x7b' :: (l.lineBreak (level + 1) ++ name ++ first ++ others ++
          l.lineBreak level ++ [.char '\x7d']) := by
  cases entries with
  | nil =>
      obtain ⟨_, -, h⟩ := exists_of_bind_eq_ok h
      exact .inl ⟨rfl, (Except.ok.inj h).symm⟩
  | cons entry more =>
      obtain ⟨_, -, h⟩ := exists_of_bind_eq_ok h
      obtain ⟨name, hname, h⟩ := exists_of_bind_eq_ok h
      obtain ⟨first, hfirst, h⟩ := exists_of_bind_eq_ok h
      obtain ⟨others, hothers, h⟩ := exists_of_bind_eq_ok h
      exact .inr ⟨entry, more, name, first, others, rfl, hname, hfirst, hothers,
        (Except.ok.inj h).symm⟩

end

/-! ## Steps of the reader -/

section

variable {depth room : ℕ} {s rest after last tail end' : List CodePoint} {item : Document}
  {items : List Document}
  {key : Text} {pairs : List (Text × Document)}

theorem readItems_last (h : readValue depth room s = .ok (item, rest))
    (hrest : skipSpace rest = .char ']' :: after) :
    readItems (depth + 1) room s = .ok ([item], after) := by
  rw [readItems, h]
  simp only [bind, Except.bind, hrest]
  rfl

theorem readItems_more (h : readValue depth room s = .ok (item, rest))
    (hrest : skipSpace rest = .char ',' :: after)
    (hmore : readItems depth room (skipSpace after) = .ok (items, last)) :
    readItems (depth + 1) room s = .ok (item :: items, last) := by
  rw [readItems, h]
  simp only [bind, Except.bind, hrest, hmore]
  rfl

theorem readPairs_last (hkey : readString s = some (key, rest))
    (hmark : skipSpace rest = .char ':' :: after)
    (h : readValue depth room (skipSpace after) = .ok (item, last))
    (hlast : skipSpace last = .char '\x7d' :: tail) :
    readPairs (depth + 1) room (.char '"' :: s) = .ok ([(key, item)], tail) := by
  rw [readPairs, hkey]
  simp only [hmark, h, bind, Except.bind, hlast]
  rfl

theorem readPairs_more (hkey : readString s = some (key, rest))
    (hmark : skipSpace rest = .char ':' :: after)
    (h : readValue depth room (skipSpace after) = .ok (item, last))
    (hlast : skipSpace last = .char ',' :: tail)
    (hmore : readPairs depth room (skipSpace tail) = .ok (pairs, end')) :
    readPairs (depth + 1) room (.char '"' :: s) = .ok ((key, item) :: pairs, end') := by
  rw [readPairs, hkey]
  simp only [hmark, h, bind, Except.bind, hlast, hmore]
  rfl

/-- No item stands where an array is closed. -/
theorem readItems_closed : readItems depth room (.char ']' :: rest) = .error .malformed := by
  cases depth with
  | zero => rfl
  | succ depth => cases depth <;> rfl

/-- No entry stands where an object is closed. -/
theorem readPairs_closed : readPairs depth room (.char '\x7d' :: rest) = .error .malformed := by
  cases depth <;> rfl

theorem readValue_array (hrest : skipSpace rest = s)
    (h : readItems depth room s = .ok (items, after)) :
    readValue (depth + 1) (room + 1) (.char '[' :: rest) = .ok (.array items, after) := by
  rw [readValue]
  simp only [enter, bind, Except.bind, hrest]
  split
  · rw [readItems_closed] at h
    cases h
  · rw [h]
    rfl

theorem readValue_object (hrest : skipSpace rest = s)
    (h : readPairs depth room s = .ok (pairs, after)) :
    readValue (depth + 1) (room + 1) (.char '\x7b' :: rest) =
      .ok (.object (Entries.ofPairs pairs), after) := by
  rw [readValue]
  simp only [enter, bind, Except.bind, hrest]
  split
  · rw [readPairs_closed] at h
    cases h
  · rw [h]
    rfl

end

/-! ## Reading back -/

/-- A document is read back from what is written of it where there is room for its levels, whatever
follows. -/
def ReadsBack (l : Layout Text Empty) (d : Document) : Prop :=
  ∀ ⦃level : ℕ⦄ ⦃text : List CodePoint⦄, writeValue l level d = .ok text →
    ∀ rest depth room, EndsNumber rest → 2 * text.length + 1 ≤ depth → d.levels ≤ room →
      readValue depth room (text ++ rest) = .ok (d.written, rest)

section

variable {l : Layout Text Empty}

/-- What is read back has no blank space at its head. -/
theorem ReadsBack.skipSpace {d : Document} (h : ReadsBack l d) {level : ℕ} {text : List CodePoint}
    (htext : writeValue l level d = .ok text) {rest : List CodePoint} (hrest : EndsNumber rest) :
    Json.skipSpace (text ++ rest) = text ++ rest :=
  skipSpace_of_readValue (h htext rest _ _ hrest (le_refl _) (le_refl _))

theorem endsNumber_comma (rest : List CodePoint) : EndsNumber (.char ',' :: rest) :=
  endsNumber_cons (by decide) (by decide) (by decide) (by decide) rest

/-- The closing bracket or brace, blank space before it, may follow a number. -/
theorem endsNumber_closed {blank : List CodePoint} (hblank : ∀ c ∈ blank, isSpace c = true)
    {c : CodePoint}
    (hc : c = ']' ∨ c = '\x7d') (rest : List CodePoint) : EndsNumber (blank ++ c :: rest) := by
  refine EndsNumber.blank_append hblank ?_
  rcases hc with rfl | rfl <;>
    exact endsNumber_cons (by decide) (by decide) (by decide) (by decide) rest

theorem endsNumber_writeItems (hl : l.IsReadable) {level : ℕ} {items : List Document}
    {others : List CodePoint} (h : writeItems l level items = .ok others) {rest : List CodePoint}
    (hrest : EndsNumber rest) : EndsNumber (others ++ rest) := by
  cases items with
  | nil =>
      obtain rfl := Except.ok.inj h
      exact hrest
  | cons item items =>
      obtain ⟨first, more, -, -, rfl⟩ := exists_of_writeItems_cons h
      obtain ⟨gap, hmark, -⟩ := hl.itemMark
      rw [hmark]
      exact endsNumber_comma _

/-- Items are read back up to the closing bracket. -/
theorem readItems_writeItems (hl : l.IsReadable) {level room : ℕ} {blank : List CodePoint}
    (hblank : ∀ c ∈ blank, isSpace c = true) (rest : List CodePoint) {items : List Document} :
    ∀ {item : Document} {first others : List CodePoint} {depth : ℕ},
      (∀ x ∈ item :: items, ReadsBack l x) → itemsLevels (item :: items) ≤ room →
      writeValue l level item = .ok first → writeItems l level items = .ok others →
      2 * (first.length + others.length) + 2 ≤ depth →
      readItems depth room (first ++ (others ++ (blank ++ .char ']' :: rest))) =
        .ok ((item :: items).map Value.written, rest) := by
  have hend := endsNumber_closed hblank (.inl rfl) rest
  induction items with
  | nil =>
      intro item first others depth hitems hroom hfirst hothers hdepth
      obtain rfl : others = [] := (Except.ok.inj hothers).symm
      obtain ⟨depth, rfl⟩ : ∃ k, depth = k + 1 := ⟨depth - 1, by omega⟩
      have hread := hitems item List.mem_cons_self hfirst _ depth room hend (by omega)
        ((levels_le_itemsLevels List.mem_cons_self).trans hroom)
      refine readItems_last hread ?_
      rw [skipSpace_append hblank]
      rfl
  | cons next items ih =>
      intro item first others depth hitems hroom hfirst hothers hdepth
      obtain ⟨hitem, hrest⟩ := List.forall_mem_cons.1 hitems
      rw [itemsLevels, max_le_iff] at hroom
      obtain ⟨second, more, hsecond, hmore, rfl⟩ := exists_of_writeItems_cons hothers
      obtain ⟨gap, hmark, hgap⟩ := hl.itemMark
      rw [hmark] at hdepth ⊢
      simp only [List.length_append, List.length_cons] at hdepth
      obtain ⟨depth, rfl⟩ : ∃ k, depth = k + 1 := ⟨depth - 1, by omega⟩
      simp only [List.cons_append, List.append_assoc]
      refine readItems_more
        (hitem hfirst _ depth room (endsNumber_comma _) (by omega) hroom.1) rfl ?_
      rw [skipSpace_append hgap, skipSpace_append (l.isSpace_of_mem_lineBreak _),
        (hrest next List.mem_cons_self).skipSpace hsecond (endsNumber_writeItems hl hmore hend)]
      exact ih hrest hroom.2 hsecond hmore (by omega)

/-- A key is read back up to the mark after it. -/
theorem exists_of_writeKey (hl : l.IsReadable) {key : Text} {name : List CodePoint}
    (h : writeKey l key = .ok name) :
    ∃ gap, (∀ c ∈ gap, isSpace c = true) ∧
      ∀ rest, ∃ s, name ++ rest = .char '"' :: s ∧
        readString s = some (key, .char ':' :: (gap ++ rest)) := by
  obtain rfl := Except.ok.inj h
  obtain ⟨gap, hmark, hgap⟩ := hl.keyMark
  refine ⟨gap, hgap, fun rest =>
    ⟨key.toList.flatMap (writeChar false) ++ .char '"' :: .char ':' :: (gap ++ rest), ?_, ?_⟩⟩
  · rw [hl.asciiOnly, hmark, List.append_assoc, writeString_eq, List.cons_append]
  · rw [readString_writeString, Text.ofList_toList]

/-- An entry is read back: its key up to the mark, and after the mark its value. -/
theorem exists_read_entry (hl : l.IsReadable) {level depth room : ℕ} {entry : Text × Document}
    {name first : List CodePoint} (hentry : ReadsBack l entry.2) (hroom : entry.2.levels ≤ room)
    (hname : writeKey l entry.1 = .ok name) (hfirst : writeValue l level entry.2 = .ok first)
    (hdepth : 2 * first.length + 1 ≤ depth) {rest : List CodePoint} (hrest : EndsNumber rest) :
    ∃ s after, name ++ (first ++ rest) = .char '"' :: s ∧
      readString s = some (entry.1, .char ':' :: after) ∧
      readValue depth room (skipSpace after) = .ok (entry.2.written, rest) := by
  obtain ⟨gap, hgap, hkey⟩ := exists_of_writeKey hl hname
  obtain ⟨s, hs, hread⟩ := hkey (first ++ rest)
  refine ⟨s, gap ++ (first ++ rest), hs, hread, ?_⟩
  rw [skipSpace_append hgap, hentry.skipSpace hfirst hrest]
  exact hentry hfirst rest depth room hrest hdepth hroom

/-- No blank space stands at the head of a key. -/
theorem skipSpace_of_writeKey {key : Text} {name : List CodePoint} (h : writeKey l key = .ok name)
    (rest : List CodePoint) : skipSpace (name ++ rest) = name ++ rest := by
  obtain rfl := Except.ok.inj h
  rfl

/-- Entries are read back up to the closing brace. -/
theorem readPairs_writeEntries (hl : l.IsReadable) {level room : ℕ} {blank : List CodePoint}
    (hblank : ∀ c ∈ blank, isSpace c = true) (rest : List CodePoint)
    {entries : List (Text × Document)} :
    ∀ {entry : Text × Document} {name first others : List CodePoint} {depth : ℕ},
      (∀ x ∈ entry :: entries, ReadsBack l x.2) → entriesLevels (entry :: entries) ≤ room →
      writeKey l entry.1 = .ok name → writeValue l level entry.2 = .ok first →
        writeEntries l level entries = .ok others →
      2 * (name.length + first.length + others.length) + 2 ≤ depth →
      readPairs depth room (name ++ (first ++ (others ++ (blank ++ .char '\x7d' :: rest)))) =
        .ok ((entry :: entries).map fun entry => (entry.1, entry.2.written), rest) := by
  have hend := endsNumber_closed hblank (.inr rfl) rest
  induction entries with
  | nil =>
      intro entry name first others depth hentries hroom hname hfirst hothers hdepth
      obtain rfl : others = [] := (Except.ok.inj hothers).symm
      obtain ⟨depth, rfl⟩ : ∃ k, depth = k + 1 := ⟨depth - 1, by omega⟩
      obtain ⟨s, after, hs, hkey, hvalue⟩ := exists_read_entry hl
        (hentries entry List.mem_cons_self)
        ((levels_le_entriesLevels List.mem_cons_self).trans hroom) hname hfirst
        (show _ ≤ depth by omega) hend
      rw [List.nil_append, hs]
      refine readPairs_last hkey rfl hvalue ?_
      rw [skipSpace_append hblank]
      rfl
  | cons next entries ih =>
      intro entry name first others depth hentries hroom hname hfirst hothers hdepth
      obtain ⟨hentry, hrest⟩ := List.forall_mem_cons.1 hentries
      rw [entriesLevels, max_le_iff] at hroom
      obtain ⟨name', second, more, hname', hsecond, hmore, rfl⟩ :=
        exists_of_writeEntries_cons hothers
      obtain ⟨mark, hmark, hblankMark⟩ := hl.itemMark
      rw [hmark] at hdepth ⊢
      simp only [List.length_append, List.length_cons] at hdepth
      obtain ⟨depth, rfl⟩ : ∃ k, depth = k + 1 := ⟨depth - 1, by omega⟩
      simp only [List.cons_append, List.append_assoc]
      obtain ⟨s, after, hs, hkey, hvalue⟩ := exists_read_entry hl hentry hroom.1
        hname hfirst (show _ ≤ depth by omega) (endsNumber_comma (mark ++ (l.lineBreak level ++
          (name' ++ (second ++ (more ++ (blank ++ .char '\x7d' :: rest)))))))
      rw [hs]
      refine readPairs_more hkey rfl hvalue rfl ?_
      rw [skipSpace_append hblankMark, skipSpace_append (l.isSpace_of_mem_lineBreak _),
        skipSpace_of_writeKey hname']
      exact ih hrest hroom.2 hname' hsecond hmore (by omega)

/-- A value without parts is read back. -/
theorem readsBack_of_le_one {d : Document} (h : ∀ {level text rest depth room},
    writeValue l level d = .ok text → EndsNumber rest →
      readValue (depth + 1) room (text ++ rest) = .ok (d.written, rest)) : ReadsBack l d := by
  intro level text htext rest depth room hrest hdepth _
  obtain ⟨depth, rfl⟩ : ∃ k, depth = k + 1 := ⟨depth - 1, by omega⟩
  exact h htext hrest

theorem readsBack_array (hl : l.IsReadable) {items : List Document}
    (h : ∀ item ∈ items, ReadsBack l item) : ReadsBack l (.array items) := by
  intro level text htext rest depth room _ hdepth hroom
  rw [Value.levels] at hroom
  rw [Value.written, writtenItems_eq_map]
  obtain ⟨depth, rfl⟩ : ∃ k, depth = k + 1 := ⟨depth - 1, by omega⟩
  obtain ⟨room, rfl⟩ : ∃ k, room = k + 1 := ⟨room - 1, by omega⟩
  obtain ⟨rfl, rfl⟩ | ⟨item, items, first, others, rfl, hfirst, hothers, rfl⟩ :=
    writeValue_array_cases htext
  · rfl
  · simp only [List.length_append, List.length_cons, List.length_nil] at hdepth
    simp only [List.cons_append, List.append_assoc, List.nil_append]
    refine readValue_array ?_ (readItems_writeItems hl (l.isSpace_of_mem_lineBreak level) rest
      h (by omega) hfirst hothers (by omega))
    rw [skipSpace_append (l.isSpace_of_mem_lineBreak _)]
    exact (h item List.mem_cons_self).skipSpace hfirst (endsNumber_writeItems hl hothers
      (endsNumber_closed (l.isSpace_of_mem_lineBreak level) (.inl rfl) rest))

theorem readsBack_object (hl : l.IsReadable) {entries : List (Text × Document)}
    (hkeys : (entries.map Prod.fst).Nodup) (h : ∀ entry ∈ entries, ReadsBack l entry.2) :
    ReadsBack l (.object entries) := by
  intro level text htext rest depth room _ hdepth hroom
  rw [Value.levels] at hroom
  rw [Value.written, writtenEntries_eq_map]
  obtain ⟨depth, rfl⟩ : ∃ k, depth = k + 1 := ⟨depth - 1, by omega⟩
  obtain ⟨room, rfl⟩ : ∃ k, room = k + 1 := ⟨room - 1, by omega⟩
  obtain ⟨rfl, rfl⟩ | ⟨entry, entries, name, first, others, rfl, hname, hfirst, hothers, rfl⟩ :=
    writeValue_object_cases htext
  · rfl
  · simp only [List.length_append, List.length_cons, List.length_nil] at hdepth
    simp only [List.cons_append, List.append_assoc, List.nil_append]
    have hpairs := readPairs_writeEntries hl (l.isSpace_of_mem_lineBreak level) rest h
      (show _ ≤ room by omega) hname hfirst hothers (show _ ≤ depth by omega)
    have hnodup : (((entry :: entries).map fun entry => (entry.1, entry.2.written)).map
        Prod.fst).Nodup := by
      rw [List.map_map]
      exact hkeys
    rw [← Entries.ofPairs_of_nodup hnodup]
    refine readValue_object ?_ hpairs
    rw [skipSpace_append (l.isSpace_of_mem_lineBreak _)]
    exact skipSpace_of_writeKey hname _

/-- **A document is read back.** -/
theorem readValue_writeValue (hl : l.IsReadable) {d : Document} (hd : d.IsProper) :
    ReadsBack l d := by
  induction hd with
  | null =>
      refine readsBack_of_le_one fun htext _ => ?_
      obtain rfl := Except.ok.inj htext
      rfl
  | bool b =>
      refine readsBack_of_le_one fun htext _ => ?_
      cases b <;> obtain rfl := Except.ok.inj htext <;> rfl
  | number n =>
      refine readsBack_of_le_one fun htext hrest => ?_
      rw [writeValue] at htext
      exact readValue_of_readNumber
        (readNumber_numberWrite (eq_ok_of_mapError_eq_ok htext) hrest) _ _
  | text s =>
      refine readsBack_of_le_one fun htext _ => ?_
      obtain rfl := Except.ok.inj htext
      rw [hl.asciiOnly, writeString_eq, readValue, readString_writeString]
      dsimp only
      rw [Text.ofList_toList]
      rfl
  | array _ ih => exact readsBack_array hl ih
  | object hkeys _ ih => exact readsBack_object hl hkeys ih

/-! ## Whole texts -/

/-- The text of a document is that of a value in no other. -/
theorem exists_writeValue_of_write {κ α : Type} [WritableKey κ] {l : Layout κ α} {v : Value κ α}
    {text : Text} (h : write l v = .ok text) :
    ∃ s, writeValue l 0 v = .ok s ∧ text = Text.ofList s := by
  unfold write at h
  split at h
  · next t =>
      refine ⟨writeString l.asciiOnly t.toList, ?_, (Except.ok.inj h).symm⟩
      rw [writeValue]
  · obtain ⟨_, -, h⟩ := exists_of_bind_eq_ok h
    obtain ⟨_, -, h⟩ := exists_of_bind_eq_ok h
    obtain ⟨s, hs, h⟩ := exists_of_bind_eq_ok h
    exact ⟨s, hs, (Except.ok.inj h).symm⟩

/-- **The text of a document is read as the document** where there is room for its levels. -/
theorem readL_write (hl : l.IsReadable) {d : Document} (hd : d.IsProper) {text : Text}
    (h : write l d = .ok text) {room : ℕ} (hroom : d.levels ≤ room) :
    readL room text.toList = .ok d.written := by
  obtain ⟨s, hs, rfl⟩ := exists_writeValue_of_write h
  have hread := readValue_writeValue hl hd hs [] (2 * s.length + 2) room endsNumber_nil
    (by omega) hroom
  rw [List.append_nil] at hread
  rw [Text.toList_ofList, readL, skipSpace_of_readValue hread, hread]
  rfl

end

end Json

end Winnow
