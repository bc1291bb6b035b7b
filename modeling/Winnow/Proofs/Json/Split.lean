import Winnow.Proofs.Json.Characters
import Winnow.Proofs.Text.Lines

/-!
# JSON text that is cut into lines and joined again

With every item on a line of its own, the text of a document is cut where its layout ends a line,
and also inside of strings that hold a separator. What was cut is joined by line feeds, which no
string may hold as they are, so a text that was cut inside of a string is no JSON text any more.

* `Value.Splits` — documents in whose texts or keys a separator stands.
* `feedLines_writeValue` — the text of any other document stays as it is.
* `readString_feedLines` — a string that was cut is not read.
* `Unreadable`, `unreadable_of_splits` — nor is a document with such a string.
* `readL_feedLines` — both for whole texts.
-/

namespace Winnow.Json

open Winnow.Text (feedLines feedLines_append separators)

/-- A separator stands in a text. -/
def HasSeparator (s : Text) : Prop := ∃ c ∈ s.toList, c ∈ separators

/-- A separator stands in a text or a key of a document. -/
def Value.Splits (d : Document) : Prop := ∃ s, d.HasText s ∧ HasSeparator s

theorem splits_text_iff {s : Text} : (Value.text s : Document).Splits ↔ HasSeparator s := by
  constructor
  · rintro ⟨t, ht, h⟩
    cases ht
    exact h
  · exact fun h => ⟨s, .text, h⟩

theorem splits_array_iff {items : List Document} :
    (Value.array items).Splits ↔ ∃ item ∈ items, item.Splits := by
  constructor
  · rintro ⟨s, hs, h⟩
    cases hs with
    | item hitem hs => exact ⟨_, hitem, s, hs, h⟩
  · rintro ⟨item, hitem, s, hs, h⟩
    exact ⟨s, .item hitem hs, h⟩

theorem splits_object_iff {entries : List (Text × Document)} :
    (Value.object entries).Splits ↔
      ∃ entry ∈ entries, HasSeparator entry.1 ∨ entry.2.Splits := by
  constructor
  · rintro ⟨s, hs, h⟩
    cases hs with
    | key hentry hkey =>
        subst hkey
        exact ⟨_, hentry, .inl h⟩
    | value hentry hs => exact ⟨_, hentry, .inr ⟨s, hs, h⟩⟩
  · rintro ⟨entry, hentry, h | ⟨s, hs, h⟩⟩
    · exact ⟨entry.1, .key hentry rfl, h⟩
    · exact ⟨s, .value hentry hs, h⟩

/-! ## Documents without separators -/

/-- A character that ends a line only if it is a line feed. -/
def FeedsOnly (c : CodePoint) : Prop := Text.isLineEnd c = true → c = '\n'

theorem holdsOfPlain_feedsOnly : HoldsOfPlain FeedsOnly := by
  intro c hlow hhigh hend
  simp only [Text.isLineEnd, Bool.or_eq_true, Bool.and_eq_true, decide_eq_true_eq,
    beq_iff_eq] at hend
  omega

theorem feedsOnly_of_notMem {c : CodePoint} (h : c ∉ separators) (hc : 0x20 ≤ c.toNat) :
    FeedsOnly c :=
  fun hend => absurd (Text.mem_separators_iff.2 ⟨hend, hc⟩) h

/-- The text of a document without separators stays as it is. -/
theorem feedLines_writeValue {l : Layout Text Empty} {width level : ℕ} (hl : l.IsIndented width)
    {d : Document} (hd : d.IsProper) (hsplits : ¬d.Splits) {text : List CodePoint}
    (h : writeValue l level d = .ok text) : feedLines text = text := by
  have htexts : d.HoldsOfTexts FeedsOnly :=
    fun s hs c hc => feedsOnly_of_notMem fun hmem => hsplits ⟨s, hs, c, hc, hmem⟩
  exact Text.feedLines_eq_self (forall_mem_writeValue
    (hl.writes holdsOfPlain_feedsOnly fun _ => rfl) hd htexts level text h)

/-! ## Strings -/

theorem feedLines_writeChar {c : CodePoint} (h : c ∉ separators) :
    feedLines (writeChar false c) = writeChar false c :=
  Text.feedLines_eq_self (forall_mem_writeChar holdsOfPlain_feedsOnly (feedsOnly_of_notMem h))

/-- In the place of a separator stands a line feed. -/
theorem feedLines_writeChar_of_mem {c : CodePoint} (h : c ∈ separators) :
    feedLines (writeChar false c) = [.char '\n'] := by
  obtain ⟨hend, hlow⟩ := Text.mem_separators_iff.1 h
  have hform : writeChar false c = [c] := by
    simp only [separators, List.mem_cons, List.not_mem_nil, or_false] at h
    rcases h with rfl | rfl | rfl <;> rfl
  rw [hform, feedLines, List.map_singleton, if_pos hend]

/-- A line feed stands in no string as it is. -/
theorem readParts_lineFeed (rest : List CodePoint) : readParts (.char '\n' :: rest) = none := rfl

theorem readParts_feedLines {s : List CodePoint} (h : ∃ c ∈ s, c ∈ separators)
    (rest : List CodePoint) :
    readParts (feedLines (s.flatMap (writeChar false)) ++ rest) = none := by
  induction s with
  | nil => simp at h
  | cons c s ih =>
      rw [List.flatMap_cons, feedLines_append, List.append_assoc]
      by_cases hc : c ∈ separators
      · rw [feedLines_writeChar_of_mem hc]
        exact readParts_lineFeed _
      · have hrest : ∃ c ∈ s, c ∈ separators :=
          (List.or_exists_of_exists_mem_cons h).resolve_left hc
        obtain ⟨p, -, hp⟩ := readParts_writeChar c
        rw [feedLines_writeChar hc, hp, ih hrest, Option.map_none]

theorem feedLines_writeString (s rest : List CodePoint) :
    feedLines (writeString false s) ++ rest =
      .char '"' :: (feedLines (s.flatMap (writeChar false)) ++ .char '"' :: rest) := by
  have hquote : feedLines [.char '"'] = [.char '"'] := rfl
  rw [writeString, ← List.singleton_append, feedLines_append, feedLines_append, hquote,
    List.append_assoc, List.append_assoc]
  rfl

/-- **A string that was cut is not read.** -/
theorem readString_feedLines {s : List CodePoint} (h : ∃ c ∈ s, c ∈ separators)
    (rest : List CodePoint) :
    readString (feedLines (s.flatMap (writeChar false)) ++ rest) = none := by
  rw [readString, readParts_feedLines h, Option.map_none]

/-! ## Steps of the reader that fail -/

section

variable {depth room : ℕ} {s rest after last tail : List CodePoint} {item : Document} {key : Text}
  {e : ReadError}

theorem readItems_error (h : readValue depth room s = .error e) :
    readItems (depth + 1) room s = .error e := by
  rw [readItems, h]
  rfl

theorem readItems_more_error (h : readValue depth room s = .ok (item, rest))
    (hrest : skipSpace rest = .char ',' :: after)
    (hmore : readItems depth room (skipSpace after) = .error e) :
    readItems (depth + 1) room s = .error e := by
  rw [readItems, h]
  simp only [bind, Except.bind, hrest, hmore]

theorem readPairs_key_error (hkey : readString s = none) :
    readPairs (depth + 1) room (.char '"' :: s) = .error .malformed := by
  rw [readPairs, hkey]

theorem readPairs_value_error (hkey : readString s = some (key, rest))
    (hmark : skipSpace rest = .char ':' :: after)
    (h : readValue depth room (skipSpace after) = .error e) :
    readPairs (depth + 1) room (.char '"' :: s) = .error e := by
  rw [readPairs, hkey]
  simp only [hmark, h, bind, Except.bind]

theorem readPairs_more_error (hkey : readString s = some (key, rest))
    (hmark : skipSpace rest = .char ':' :: after)
    (h : readValue depth room (skipSpace after) = .ok (item, last))
    (hlast : skipSpace last = .char ',' :: tail)
    (hmore : readPairs depth room (skipSpace tail) = .error e) :
    readPairs (depth + 1) room (.char '"' :: s) = .error e := by
  rw [readPairs, hkey]
  simp only [hmark, h, bind, Except.bind, hlast, hmore]

theorem readValue_array_error (hrest : skipSpace rest = s) (hs : ∀ t, s ≠ .char ']' :: t)
    (h : readItems depth room s = .error e) :
    readValue (depth + 1) (room + 1) (.char '[' :: rest) = .error e := by
  rw [readValue]
  simp only [enter, bind, Except.bind, hrest, h]

theorem readValue_object_error (hrest : skipSpace rest = .char '"' :: s)
    (h : readPairs depth room (.char '"' :: s) = .error e) :
    readValue (depth + 1) (room + 1) (.char '\x7b' :: rest) = .error e := by
  rw [readValue]
  simp only [enter, bind, Except.bind, hrest]
  split
  · next heq => cases heq
  · rw [h]

end

/-! ## The edges of a value -/

/-- The first and the last character of what is no number are marks or letters. -/
theorem writeValue_edges {l : Layout Text Empty} {level : ℕ} {d : Document} {text : List CodePoint}
    (h : writeValue l level d = .ok text) :
    (∃ n : Number, n.write = .ok text) ∨
      ∃ first s last, text = first :: (s ++ [last]) ∧
        first ∈ [.char 'n', .char 't', .char 'f', .char '"', .char '[', .char '\x7b'] ∧
        last ∈ [.char 'l', .char 'e', .char '"', .char ']', .char '\x7d'] := by
  cases d with
  | null =>
      obtain rfl := Except.ok.inj h
      exact .inr ⟨'n', [.char 'u', .char 'l'], 'l', rfl, by decide, by decide⟩
  | bool b =>
      cases b <;> obtain rfl := Except.ok.inj h
      · exact .inr ⟨'f', [.char 'a', .char 'l', .char 's'], 'e', rfl, by decide, by decide⟩
      · exact .inr ⟨'t', [.char 'r', .char 'u'], 'e', rfl, by decide, by decide⟩
  | number n =>
      rw [writeValue] at h
      exact .inl ⟨n, eq_ok_of_mapError_eq_ok h⟩
  | text s =>
      obtain rfl := Except.ok.inj h
      exact .inr ⟨'"', _, '"', rfl, by decide, by decide⟩
  | array items =>
      obtain ⟨-, rfl⟩ | ⟨_, _, first, others, -, -, -, rfl⟩ := writeValue_array_cases h
      · exact .inr ⟨'[', [], ']', rfl, by decide, by decide⟩
      · exact .inr ⟨'[', _, ']', rfl, by decide, by decide⟩
  | object entries =>
      obtain ⟨-, rfl⟩ | ⟨_, _, name, first, others, -, -, -, -, rfl⟩ := writeValue_object_cases h
      · exact .inr ⟨'\x7b', [], '\x7d', rfl, by decide, by decide⟩
      · exact .inr ⟨'\x7b', _, '\x7d', rfl, by decide, by decide⟩
  | reference x => exact x.elim

/-- The text of a value starts with a character that can be seen, and not with a closing bracket. -/
theorem exists_head_of_writeValue {l : Layout Text Empty} {level : ℕ} {d : Document}
    {text : List CodePoint} (h : writeValue l level d = .ok text) :
    ∃ c s, text = c :: s ∧ 0x20 < c.toNat ∧ c.toNat < 0x7F ∧ c ≠ ']' := by
  rcases writeValue_edges h with ⟨n, hn⟩ | ⟨first, s, last, rfl, hfirst, -⟩
  · have hread := readNumber_numberWrite hn endsNumber_nil
    cases text with
    | nil => cases hread
    | cons c s => exact ⟨c, s, rfl, seen_of_mem_numberWrite hn c List.mem_cons_self⟩
  · have hall :
        ∀ c ∈ [CodePoint.char 'n', .char 't', .char 'f', .char '"', .char '[', .char '\x7b'],
        0x20 < c.toNat ∧ c.toNat < 0x7F ∧ c ≠ ']' := by simp
    exact ⟨first, _, rfl, hall first hfirst⟩

theorem not_isLineEnd_of_plain {c : CodePoint} (hlow : 0x20 < c.toNat) (hhigh : c.toNat < 0x7F) :
    Text.isLineEnd c = false := by
  rw [← Bool.not_eq_true]
  intro hend
  obtain rfl := holdsOfPlain_feedsOnly c hlow.le hhigh hend
  exact absurd hlow (by decide)

/-- The text of a value does not end a line. -/
theorem not_isLineEnd_of_mem_getLast? {l : Layout Text Empty} {level : ℕ} {d : Document}
    {text : List CodePoint} (h : writeValue l level d = .ok text) :
    ∀ c ∈ text.getLast?, Text.isLineEnd c = false := by
  intro c hc
  rcases writeValue_edges h with ⟨n, hn⟩ | ⟨first, s, last, rfl, -, hlast⟩
  · obtain ⟨hlow, hhigh, -⟩ := seen_of_mem_numberWrite hn c (List.mem_of_mem_getLast? hc)
    exact not_isLineEnd_of_plain hlow hhigh
  · rw [← List.cons_append, List.getLast?_concat] at hc
    obtain rfl := Option.some.inj hc
    have hall : ∀ c ∈ [CodePoint.char 'l', .char 'e', .char '"', .char ']', .char '\x7d'],
        0x20 < c.toNat ∧ c.toNat < 0x7F := by simp
    exact not_isLineEnd_of_plain (hall last hlast).1 (hall last hlast).2

/-- What was cut starts like a value. -/
theorem skipSpace_feedLines {l : Layout Text Empty} {level : ℕ} {d : Document}
    {text : List CodePoint} (h : writeValue l level d = .ok text) (rest : List CodePoint) :
    skipSpace (feedLines text ++ rest) = feedLines text ++ rest ∧
      ∀ t, feedLines text ++ rest ≠ .char ']' :: t := by
  obtain ⟨c, s, rfl, hlow, hhigh, hne⟩ := exists_head_of_writeValue h
  have hhead : (if Text.isLineEnd c then .char '\n' else c) = c := by
    rw [not_isLineEnd_of_plain hlow hhigh]
    rfl
  have hspace : ¬isSpace c = true := by
    intro hspace
    rcases eq_of_isSpace hspace with rfl | rfl | rfl | rfl <;> exact absurd hlow (by decide)
  rw [feedLines, List.map_cons, hhead, List.cons_append]
  refine ⟨List.dropWhile_cons_of_neg hspace, fun t ht => ?_⟩
  obtain ⟨rfl, -⟩ := List.cons.inj ht
  exact hne rfl

/-! ## Documents with separators -/

/-- What was cut of a document is not read, whatever follows, though there is room for its levels.
-/
def Unreadable (l : Layout Text Empty) (d : Document) : Prop :=
  ∀ ⦃level : ℕ⦄ ⦃text : List CodePoint⦄, writeValue l level d = .ok text →
    ∀ rest depth room, 2 * text.length + 1 ≤ depth → d.levels ≤ room →
      readValue depth room (feedLines text ++ rest) = .error .malformed

section

variable {l : Layout Text Empty} {width : ℕ}

theorem feedLines_lineBreak (hl : l.IsIndented width) (level : ℕ) :
    feedLines (l.lineBreak level) = l.lineBreak level :=
  Text.feedLines_eq_self fun c hc =>
    (hl.writes holdsOfPlain_feedsOnly fun _ => rfl).lineBreak level c hc

/-- What follows an item or an entry: a comma, a new line, and what comes next. -/
theorem feedLines_next (hl : l.IsIndented width) (level : ℕ) (s rest : List CodePoint) :
    feedLines (l.itemMark ++ l.lineBreak level ++ s) ++ rest =
      .char ',' :: (l.lineBreak level ++ (feedLines s ++ rest)) := by
  have hmark : feedLines l.itemMark = [.char ','] := by
    rw [hl.itemMark]
    rfl
  rw [feedLines_append, feedLines_append, feedLines_lineBreak hl, hmark, List.append_assoc,
    List.append_assoc, List.singleton_append]

/-- Items are not read if one of them is not. Those before it are read. -/
theorem readItems_feedLines (hl : l.IsIndented width) {level room : ℕ} (rest : List CodePoint)
    {items : List Document} :
    ∀ {item : Document} {first others : List CodePoint} {depth : ℕ},
      (∀ x ∈ item :: items, x.IsProper) → (∀ x ∈ item :: items, x.Splits → Unreadable l x) →
      (∃ x ∈ item :: items, x.Splits) → itemsLevels (item :: items) ≤ room →
      writeValue l level item = .ok first → writeItems l level items = .ok others →
      2 * (first.length + others.length) + 2 ≤ depth →
      readItems depth room (feedLines first ++ (feedLines others ++ rest)) = .error .malformed := by
  induction items with
  | nil =>
      intro item first others depth _ hcut hsplits hroom hfirst hothers hdepth
      obtain ⟨x, hx, hsplit⟩ := hsplits
      obtain rfl := List.mem_singleton.1 hx
      obtain ⟨depth, rfl⟩ : ∃ k, depth = k + 1 := ⟨depth - 1, by omega⟩
      exact readItems_error (hcut x List.mem_cons_self hsplit hfirst _ depth room (by omega)
        ((levels_le_itemsLevels List.mem_cons_self).trans hroom))
  | cons next items ih =>
      intro item first others depth hproper hcut hsplits hroom hfirst hothers hdepth
      obtain ⟨depth, rfl⟩ : ∃ k, depth = k + 1 := ⟨depth - 1, by omega⟩
      rw [itemsLevels, max_le_iff] at hroom
      by_cases hitem : item.Splits
      · exact readItems_error
          (hcut item List.mem_cons_self hitem hfirst _ depth room (by omega) hroom.1)
      · obtain ⟨hthis, hproper⟩ := List.forall_mem_cons.1 hproper
        have hlater : ∃ x ∈ next :: items, x.Splits :=
          (List.or_exists_of_exists_mem_cons hsplits).resolve_left hitem
        obtain ⟨second, more, hsecond, hmore, rfl⟩ := exists_of_writeItems_cons hothers
        simp only [List.length_append, hl.itemMark, List.length_singleton] at hdepth
        rw [feedLines_writeValue hl hthis hitem hfirst, List.append_assoc _ second more,
          feedLines_next hl, feedLines_append, List.append_assoc]
        refine readItems_more_error (readValue_writeValue hl.isReadable hthis hfirst _ depth room
          (endsNumber_comma _) (by omega) hroom.1) rfl ?_
        rw [skipSpace_append (Layout.isSpace_of_mem_lineBreak _ _),
          (skipSpace_feedLines hsecond _).1]
        exact ih hproper (fun x hx => hcut x (List.mem_cons_of_mem _ hx)) hlater hroom.2 hsecond
          hmore (by omega)

/-- A key without separators stays as it is. -/
theorem feedLines_writeKey (hl : l.IsIndented width) {key : Text} (hkey : ¬HasSeparator key)
    {name : List CodePoint} (h : writeKey l key = .ok name) : feedLines name = name :=
  Text.feedLines_eq_self
    ((hl.writes holdsOfPlain_feedsOnly fun _ => rfl).forall_mem_writeKey h fun c hc =>
      feedsOnly_of_notMem fun hmem => hkey ⟨c, hc, hmem⟩)

/-- An entry is not read if a separator stands in its key or if its value is not read. -/
theorem readPairs_entry_error (hl : l.IsIndented width) {level depth room : ℕ}
    {entry : Text × Document} {name first : List CodePoint}
    (hsplits : HasSeparator entry.1 ∨ entry.2.Splits)
    (hcut : entry.2.Splits → Unreadable l entry.2) (hroom : entry.2.levels ≤ room)
    (hname : writeKey l entry.1 = .ok name) (hfirst : writeValue l level entry.2 = .ok first)
    (hdepth : 2 * first.length + 1 ≤ depth) (rest : List CodePoint) :
    readPairs (depth + 1) room (feedLines name ++ (feedLines first ++ rest)) =
      .error .malformed := by
  by_cases hkey : HasSeparator entry.1
  · obtain rfl := Except.ok.inj hname
    rw [hl.asciiOnly, feedLines_append, List.append_assoc, feedLines_writeString]
    exact readPairs_key_error (readString_feedLines hkey _)
  · have hvalue : entry.2.Splits := hsplits.resolve_left hkey
    obtain ⟨gap, hgap, hread⟩ := exists_of_writeKey hl.isReadable hname
    obtain ⟨s, hs, hread⟩ := hread (feedLines first ++ rest)
    rw [feedLines_writeKey hl hkey hname, hs]
    refine readPairs_value_error hread rfl ?_
    rw [skipSpace_append hgap, (skipSpace_feedLines hfirst rest).1]
    exact hcut hvalue hfirst rest depth room hdepth hroom

/-- Any other entry is read, and then it is for the entries after it to be read. -/
theorem readPairs_entry_more (hl : l.IsIndented width) {level depth room : ℕ}
    {entry : Text × Document} {name first tail : List CodePoint} {e : ReadError}
    (hproper : entry.2.IsProper) (hkey : ¬HasSeparator entry.1) (hvalue : ¬entry.2.Splits)
    (hroom : entry.2.levels ≤ room) (hname : writeKey l entry.1 = .ok name)
    (hfirst : writeValue l level entry.2 = .ok first) (hdepth : 2 * first.length + 1 ≤ depth)
    (hmore : readPairs depth room (skipSpace tail) = .error e) :
    readPairs (depth + 1) room (feedLines name ++ (feedLines first ++ .char ',' :: tail)) =
      .error e := by
  obtain ⟨s, after, hs, hread, hback⟩ := exists_read_entry hl.isReadable
    (readValue_writeValue hl.isReadable hproper) hroom hname hfirst hdepth (endsNumber_comma tail)
  rw [feedLines_writeKey hl hkey hname, feedLines_writeValue hl hproper hvalue hfirst, hs]
  exact readPairs_more_error hread rfl hback rfl hmore

/-- Entries are not read if one of them is not. Those before it are read. -/
theorem readPairs_feedLines (hl : l.IsIndented width) {level room : ℕ} (rest : List CodePoint)
    {entries : List (Text × Document)} :
    ∀ {entry : Text × Document} {name first others : List CodePoint} {depth : ℕ},
      (∀ x ∈ entry :: entries, x.2.IsProper) →
      (∀ x ∈ entry :: entries, x.2.Splits → Unreadable l x.2) →
      (∃ x ∈ entry :: entries, HasSeparator x.1 ∨ x.2.Splits) →
      entriesLevels (entry :: entries) ≤ room → writeKey l entry.1 = .ok name →
      writeValue l level entry.2 = .ok first → writeEntries l level entries = .ok others →
      2 * (name.length + first.length + others.length) + 2 ≤ depth →
      readPairs depth room (feedLines name ++ (feedLines first ++ (feedLines others ++ rest))) =
        .error .malformed := by
  induction entries with
  | nil =>
      intro entry name first others depth _ hcut hsplits hroom hname hfirst hothers hdepth
      obtain ⟨x, hx, hsplit⟩ := hsplits
      obtain rfl := List.mem_singleton.1 hx
      obtain ⟨depth, rfl⟩ : ∃ k, depth = k + 1 := ⟨depth - 1, by omega⟩
      exact readPairs_entry_error hl hsplit (hcut x List.mem_cons_self)
        ((levels_le_entriesLevels List.mem_cons_self).trans hroom) hname hfirst (by omega) _
  | cons next entries ih =>
      intro entry name first others depth hproper hcut hsplits hroom hname hfirst hothers hdepth
      obtain ⟨depth, rfl⟩ : ∃ k, depth = k + 1 := ⟨depth - 1, by omega⟩
      rw [entriesLevels, max_le_iff] at hroom
      by_cases hentry : HasSeparator entry.1 ∨ entry.2.Splits
      · exact readPairs_entry_error hl hentry (hcut entry List.mem_cons_self) hroom.1 hname hfirst
          (by omega) _
      · obtain ⟨hthis, hproper⟩ := List.forall_mem_cons.1 hproper
        have hlater : ∃ x ∈ next :: entries, HasSeparator x.1 ∨ x.2.Splits :=
          (List.or_exists_of_exists_mem_cons hsplits).resolve_left hentry
        obtain ⟨hkey, hvalue⟩ := not_or.1 hentry
        obtain ⟨name', second, more, hname', hsecond, hmore, rfl⟩ :=
          exists_of_writeEntries_cons hothers
        simp only [List.length_append, hl.itemMark, List.length_singleton] at hdepth
        rw [List.append_assoc _ second more, List.append_assoc _ name', feedLines_next hl,
          feedLines_append, feedLines_append, List.append_assoc, List.append_assoc]
        refine readPairs_entry_more hl hthis hkey hvalue hroom.1 hname hfirst (by omega) ?_
        have hspace :
            skipSpace (feedLines name' ++ (feedLines second ++ (feedLines more ++ rest))) =
            feedLines name' ++ (feedLines second ++ (feedLines more ++ rest)) := by
          obtain rfl := Except.ok.inj hname'
          rfl
        rw [skipSpace_append (Layout.isSpace_of_mem_lineBreak _ _), hspace]
        exact ih hproper (fun x hx => hcut x (List.mem_cons_of_mem _ hx)) hlater hroom.2 hname'
          hsecond hmore (by omega)

/-- An array is not read if one of its items is not. -/
theorem unreadable_array (hl : l.IsIndented width) {items : List Document}
    (hproper : ∀ item ∈ items, item.IsProper)
    (hcut : ∀ item ∈ items, item.Splits → Unreadable l item)
    (hsplits : ∃ item ∈ items, item.Splits) : Unreadable l (.array items) := by
  intro level text htext rest depth room hdepth hroom
  rw [Value.levels] at hroom
  obtain ⟨rfl, -⟩ | ⟨item, items, first, others, rfl, hfirst, hothers, rfl⟩ :=
    writeValue_array_cases htext
  · simp at hsplits
  · have hopen : ∀ s : List CodePoint, feedLines (.char '[' :: s) = .char '[' :: feedLines s :=
      fun _ => rfl
    simp only [List.length_append, List.length_cons, List.length_nil] at hdepth
    obtain ⟨depth, rfl⟩ : ∃ k, depth = k + 1 := ⟨depth - 1, by omega⟩
    obtain ⟨room, rfl⟩ : ∃ k, room = k + 1 := ⟨room - 1, by omega⟩
    simp only [List.cons_append, List.append_assoc, hopen, feedLines_append,
      feedLines_lineBreak hl]
    have hhead := skipSpace_feedLines hfirst
      (feedLines others ++ (l.lineBreak level ++ (feedLines [.char ']'] ++ rest)))
    refine readValue_array_error ?_ hhead.2 (readItems_feedLines hl _ hproper hcut hsplits
      (by omega) hfirst hothers (by omega))
    rw [skipSpace_append (Layout.isSpace_of_mem_lineBreak _ _), hhead.1]

/-- An object is not read if a separator stands in one of its keys or one of its values is not read.
-/
theorem unreadable_object (hl : l.IsIndented width) {entries : List (Text × Document)}
    (hproper : ∀ entry ∈ entries, entry.2.IsProper)
    (hcut : ∀ entry ∈ entries, entry.2.Splits → Unreadable l entry.2)
    (hsplits : ∃ entry ∈ entries, HasSeparator entry.1 ∨ entry.2.Splits) :
    Unreadable l (.object entries) := by
  intro level text htext rest depth room hdepth hroom
  rw [Value.levels] at hroom
  obtain ⟨rfl, -⟩ | ⟨entry, entries, name, first, others, rfl, hname, hfirst, hothers, rfl⟩ :=
    writeValue_object_cases htext
  · simp at hsplits
  · have hopen : ∀ s : List CodePoint,
        feedLines (.char '\x7b' :: s) = .char '\x7b' :: feedLines s := fun _ => rfl
    simp only [List.length_append, List.length_cons, List.length_nil] at hdepth
    obtain ⟨depth, rfl⟩ : ∃ k, depth = k + 1 := ⟨depth - 1, by omega⟩
    obtain ⟨room, rfl⟩ : ∃ k, room = k + 1 := ⟨room - 1, by omega⟩
    simp only [List.cons_append, List.append_assoc, hopen, feedLines_append,
      feedLines_lineBreak hl]
    have hpairs := readPairs_feedLines hl (l.lineBreak level ++ (feedLines [.char '\x7d'] ++ rest))
      hproper hcut hsplits (show _ ≤ room by omega) hname hfirst hothers (show _ ≤ depth by omega)
    obtain rfl := Except.ok.inj hname
    exact readValue_object_error (skipSpace_append (Layout.isSpace_of_mem_lineBreak _ _) _) hpairs

/-- **A document in which a separator stands is not read** once its text was cut. -/
theorem unreadable_of_splits (hl : l.IsIndented width) {d : Document} (hd : d.IsProper)
    (h : d.Splits) : Unreadable l d := by
  induction hd with
  | null =>
      obtain ⟨s, hs, -⟩ := h
      cases hs
  | bool b =>
      obtain ⟨s, hs, -⟩ := h
      cases hs
  | number n =>
      obtain ⟨s, hs, -⟩ := h
      cases hs
  | text s =>
      intro level text htext rest depth room hdepth _
      obtain ⟨depth, rfl⟩ : ∃ k, depth = k + 1 := ⟨depth - 1, by omega⟩
      obtain rfl := Except.ok.inj htext
      rw [hl.asciiOnly, feedLines_writeString, readValue,
        readString_feedLines (splits_text_iff.1 h)]
  | array hproper ih => exact unreadable_array hl hproper ih (splits_array_iff.1 h)
  | object _ hproper ih => exact unreadable_object hl hproper ih (splits_object_iff.1 h)

/-! ## Whole texts -/

/-- **The text of a document with line feeds for its line ends**, where there is room for its
levels, is read as the document if no separator stands in the document, and else is no JSON text. -/
theorem readL_feedLines (hl : l.IsIndented width) {d : Document} (hd : d.IsProper) {text : Text}
    (h : write l d = .ok text) {room : ℕ} (hroom : d.levels ≤ room) :
    (¬d.Splits → readL room (feedLines text.toList) = .ok d.written) ∧
      (d.Splits → readL room (feedLines text.toList) = .error .malformed) := by
  obtain ⟨s, hs, rfl⟩ := exists_writeValue_of_write h
  rw [Text.toList_ofList]
  constructor
  · intro hsplits
    rw [feedLines_writeValue hl hd hsplits hs]
    exact readL_write hl.isReadable hd h hroom
  · intro hsplits
    have hhead := (skipSpace_feedLines hs []).1
    have hread := unreadable_of_splits hl hd hsplits hs [] (2 * (feedLines s).length + 2) room
      (by rw [feedLines, List.length_map]; omega) hroom
    rw [List.append_nil] at hhead hread
    rw [readL, hhead, hread]
    rfl

end

end Winnow.Json
