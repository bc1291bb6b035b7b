import Winnow.Proofs.Json.Documents
import Winnow.Proofs.Number.Characters
import Winnow.Text.Lines

/-!
# The characters of JSON text

A string is written without control characters, whatever stands in it, so a control character in the
text of a document belongs to its layout. A character outside ASCII stands in a text or a key of the
document.

* `NoControl` — texts without control characters.
* `seen_of_mem_numberWrite`, `forall_mem_writeString` — the characters of numbers and strings.
* `noControl_numberWrite`, `noControl_writeString` — they are no control characters.
* `Value.HasText` — the texts and keys of a document.
* `Layout.Writes`, `forall_mem_writeValue` — the characters of a document's text.
* `readL_joinEndings_write` — a document is read back from a file.
-/

namespace Winnow

/-- No character of a text is a control character below the blank. -/
def NoControl (s : List CodePoint) : Prop := ∀ c ∈ s, 0x20 ≤ c.toNat

namespace NoControl

variable {a b s : List CodePoint}

theorem nil : NoControl [] := fun _ hc => absurd hc List.not_mem_nil

theorem cons {c : CodePoint} (hc : 0x20 ≤ c.toNat) (hs : NoControl s) : NoControl (c :: s) :=
  List.forall_mem_cons.2 ⟨hc, hs⟩

theorem append (ha : NoControl a) (hb : NoControl b) : NoControl (a ++ b) :=
  List.forall_mem_append.2 ⟨ha, hb⟩

theorem of_all (h : (s.all fun c => 0x20 ≤ c.toNat) = true) : NoControl s := by
  intro c hc
  simpa using List.all_eq_true.1 h c hc

end NoControl

/-- The characters of a number can be seen, and none is a closing bracket. -/
theorem seen_of_mem_numberWrite {n : Number} {text : List CodePoint} (h : n.write = .ok text) :
    ∀ c ∈ text, 0x20 < c.toNat ∧ c.toNat < 0x7F ∧ c ≠ ']' := by
  intro c hc
  rcases isNumberText_numberWrite h c hc with hdigit | hmark
  · obtain ⟨hlow, hhigh⟩ := CodePoint.isDigit_iff.1 hdigit
    have hzero : '0'.toNat = 0x30 := rfl
    have hnine : '9'.toNat = 0x39 := rfl
    refine ⟨by omega, by omega, ?_⟩
    rintro rfl
    cases hdigit
  · have hmarks : ∀ c ∈ numberMarks, 0x20 < c.toNat ∧ c.toNat < 0x7F ∧ c ≠ ']' := by
      simp [numberMarks]
    exact hmarks c hmark

/-- A number is written without control characters. -/
theorem noControl_numberWrite {n : Number} {text : List CodePoint} (h : n.write = .ok text) :
    NoControl text :=
  fun c hc => (seen_of_mem_numberWrite h c hc).1.le

/-- Whether something holds of the characters that can be seen in ASCII, and of the blank. -/
def HoldsOfPlain (p : CodePoint → Prop) : Prop :=
  ∀ c : CodePoint, 0x20 ≤ c.toNat → c.toNat < 0x7F → p c

namespace HoldsOfPlain

variable {p : CodePoint → Prop}

theorem forall_mem (h : HoldsOfPlain p) {s : List CodePoint}
    (hs : (s.all fun c => 0x20 ≤ c.toNat ∧ c.toNat < 0x7F) = true) : ∀ c ∈ s, p c := by
  intro c hc
  have hplain := of_decide_eq_true (List.all_eq_true.1 hs c hc)
  exact h c hplain.1 hplain.2

end HoldsOfPlain

namespace Json

/-! ## Strings -/

theorem writeUnit_small : ∀ n : Fin 32,
    ((writeUnit n).all fun c => 0x20 ≤ c.toNat ∧ c.toNat < 0x7F) = true := by decide

theorem escapeChar?_plain {e : CodePoint} {d : Char} (h : escapeChar? e = some d) :
    0x20 ≤ e.toNat ∧ e.toNat < 0x7F := by
  unfold escapeChar? at h
  split at h <;> first | decide | cases h

section

variable {p : CodePoint → Prop}

/-- A character is written with such characters, or as it is. -/
theorem forall_mem_writeChar (h : HoldsOfPlain p) {c : CodePoint} (hc : 0x20 ≤ c.toNat → p c) :
    ∀ d ∈ writeChar false c, p d := by
  rcases writeChar_cases c with ⟨e, d, hform, he, -⟩ | ⟨hform, hn⟩ | ⟨hform, hcontrol, -⟩
  · obtain ⟨hlow, hhigh⟩ := escapeChar?_plain he
    rw [hform, List.forall_mem_cons, List.forall_mem_singleton]
    exact ⟨h _ (by decide) (by decide), h e hlow hhigh⟩
  · rw [hform]
    exact h.forall_mem (writeUnit_small ⟨c.toNat, hn⟩)
  · rw [hform, List.forall_mem_singleton]
    exact hc hcontrol

theorem forall_mem_writeString (h : HoldsOfPlain p) {s : List CodePoint}
    (hs : ∀ c ∈ s, 0x20 ≤ c.toNat → p c) : ∀ c ∈ writeString false s, p c := by
  have hquote : p '"' := h _ (by decide) (by decide)
  rw [writeString, List.forall_mem_cons, List.forall_mem_append, List.forall_mem_singleton]
  refine ⟨hquote, fun d hd => ?_, hquote⟩
  obtain ⟨c, hc, hd⟩ := List.mem_flatMap.1 hd
  exact forall_mem_writeChar h (hs c hc) d hd

end

/-- **A string is written without control characters.** -/
theorem noControl_writeString (s : List CodePoint) : NoControl (writeString false s) :=
  forall_mem_writeString (fun _ hc _ => hc) fun _ _ hc => hc

/-! ## Documents -/

/-- A text or a key of an object in a document. -/
inductive Value.HasText (s : Text) : Document → Prop
  | text : HasText s (.text s)
  | item {items : List Document} {item : Document} (hitem : item ∈ items) (h : HasText s item) :
      HasText s (.array items)
  | key {entries : List (Text × Document)} {entry : Text × Document} (hentry : entry ∈ entries)
      (h : entry.1 = s) : HasText s (.object entries)
  | value {entries : List (Text × Document)} {entry : Text × Document} (hentry : entry ∈ entries)
      (h : HasText s entry.2) : HasText s (.object entries)

/-- Whether something holds of the characters in the texts and keys of a document, control
characters apart. -/
def Value.HoldsOfTexts (p : CodePoint → Prop) (d : Document) : Prop :=
  ∀ s, HasText s d → ∀ c ∈ s.toList, 0x20 ≤ c.toNat → p c

section

variable {l : Layout Text Empty} {p : CodePoint → Prop}

/-- Whether something holds of the characters that a layout puts between the parts of a document,
and of all plain ones. -/
structure Layout.Writes (l : Layout Text Empty) (p : CodePoint → Prop) : Prop where
  lineBreak : ∀ level, ∀ c ∈ l.lineBreak level, p c
  itemMark : ∀ c ∈ l.itemMark, p c
  keyMark : ∀ c ∈ l.keyMark, p c
  asciiOnly : l.asciiOnly = false
  plain : HoldsOfPlain p

theorem Layout.Writes.forall_mem_writeKey (hl : l.Writes p) {key : Text} {name : List CodePoint}
    (hname : writeKey l key = .ok name) (hkey : ∀ c ∈ key.toList, 0x20 ≤ c.toNat → p c) :
    ∀ c ∈ name, p c := by
  obtain rfl := Except.ok.inj hname
  rw [hl.asciiOnly, List.forall_mem_append]
  exact ⟨forall_mem_writeString hl.plain hkey, hl.keyMark⟩

theorem forall_mem_writeItems (hl : l.Writes p) {level : ℕ} {items : List Document}
    (h : ∀ item ∈ items, ∀ level text, writeValue l level item = .ok text → ∀ c ∈ text, p c)
    {text : List CodePoint} (htext : writeItems l level items = .ok text) : ∀ c ∈ text, p c := by
  induction items generalizing text with
  | nil =>
      obtain rfl := Except.ok.inj htext
      exact fun c hc => absurd hc List.not_mem_nil
  | cons item items ih =>
      obtain ⟨first, others, hfirst, hothers, rfl⟩ := exists_of_writeItems_cons htext
      obtain ⟨hitem, hitems⟩ := List.forall_mem_cons.1 h
      simp only [List.forall_mem_append]
      exact ⟨⟨⟨hl.itemMark, hl.lineBreak level⟩, hitem level first hfirst⟩, ih hitems hothers⟩

theorem forall_mem_writeEntries (hl : l.Writes p) {level : ℕ} {entries : List (Text × Document)}
    (hkeys : ∀ entry ∈ entries, ∀ c ∈ entry.1.toList, 0x20 ≤ c.toNat → p c)
    (h : ∀ entry ∈ entries, ∀ level text, writeValue l level entry.2 = .ok text → ∀ c ∈ text, p c)
    {text : List CodePoint} (htext : writeEntries l level entries = .ok text) :
    ∀ c ∈ text, p c := by
  induction entries generalizing text with
  | nil =>
      obtain rfl := Except.ok.inj htext
      exact fun c hc => absurd hc List.not_mem_nil
  | cons entry entries ih =>
      obtain ⟨name, first, others, hname, hfirst, hothers, rfl⟩ := exists_of_writeEntries_cons htext
      obtain ⟨hkey, hkeys⟩ := List.forall_mem_cons.1 hkeys
      obtain ⟨hentry, hentries⟩ := List.forall_mem_cons.1 h
      simp only [List.forall_mem_append]
      exact ⟨⟨⟨⟨hl.itemMark, hl.lineBreak level⟩, hl.forall_mem_writeKey hname hkey⟩,
        hentry level first hfirst⟩, ih hkeys hentries hothers⟩

theorem forall_mem_writeValue_array (hl : l.Writes p) {items : List Document}
    (hitems : ∀ item ∈ items, ∀ level text, writeValue l level item = .ok text → ∀ c ∈ text, p c)
    {level : ℕ} {text : List CodePoint} (htext : writeValue l level (.array items) = .ok text) :
    ∀ c ∈ text, p c := by
  obtain ⟨-, rfl⟩ | ⟨item, items, first, others, rfl, hfirst, hothers, rfl⟩ :=
    writeValue_array_cases htext
  · exact hl.plain.forall_mem (by decide)
  · obtain ⟨hitem, hitems⟩ := List.forall_mem_cons.1 hitems
    simp only [List.forall_mem_append, List.forall_mem_cons]
    exact ⟨hl.plain _ (by decide) (by decide), ⟨⟨⟨hl.lineBreak _, hitem _ _ hfirst⟩,
      forall_mem_writeItems hl hitems hothers⟩, hl.lineBreak _⟩,
      hl.plain _ (by decide) (by decide), by simp⟩

theorem forall_mem_writeValue_object (hl : l.Writes p) {entries : List (Text × Document)}
    (hkeys : ∀ entry ∈ entries, ∀ c ∈ entry.1.toList, 0x20 ≤ c.toNat → p c)
    (hentries : ∀ entry ∈ entries, ∀ level text, writeValue l level entry.2 = .ok text →
      ∀ c ∈ text, p c)
    {level : ℕ} {text : List CodePoint} (htext : writeValue l level (.object entries) = .ok text) :
    ∀ c ∈ text, p c := by
  obtain ⟨-, rfl⟩ | ⟨entry, entries, name, first, others, rfl, hname, hfirst, hothers, rfl⟩ :=
    writeValue_object_cases htext
  · exact hl.plain.forall_mem (by decide)
  · obtain ⟨hkey, hkeys⟩ := List.forall_mem_cons.1 hkeys
    obtain ⟨hentry, hentries⟩ := List.forall_mem_cons.1 hentries
    simp only [List.forall_mem_append, List.forall_mem_cons]
    exact ⟨hl.plain _ (by decide) (by decide), ⟨⟨⟨⟨hl.lineBreak _,
      hl.forall_mem_writeKey hname hkey⟩, hentry _ _ hfirst⟩,
      forall_mem_writeEntries hl hkeys hentries hothers⟩, hl.lineBreak _⟩,
      hl.plain _ (by decide) (by decide), by simp⟩

/-- **The characters of a document's text** are those of its layout, plain ones, and others that
stand in the texts and keys of the document. -/
theorem forall_mem_writeValue (hl : l.Writes p) {d : Document} (hd : d.IsProper)
    (hp : d.HoldsOfTexts p) : ∀ level text, writeValue l level d = .ok text → ∀ c ∈ text, p c := by
  induction hd with
  | null =>
      intro level text htext
      obtain rfl := Except.ok.inj htext
      exact hl.plain.forall_mem (by decide)
  | bool b =>
      intro level text htext
      cases b <;> obtain rfl := Except.ok.inj htext <;> exact hl.plain.forall_mem (by decide)
  | number n =>
      intro level text htext
      rw [writeValue] at htext
      intro c hc
      obtain ⟨hlow, hhigh, -⟩ := seen_of_mem_numberWrite (eq_ok_of_mapError_eq_ok htext) c hc
      exact hl.plain c hlow.le hhigh
  | text s =>
      intro level text htext
      obtain rfl := Except.ok.inj htext
      rw [hl.asciiOnly]
      exact forall_mem_writeString hl.plain (hp s .text)
  | array _ ih =>
      intro level text htext
      exact forall_mem_writeValue_array hl
        (fun item hitem => ih item hitem fun s hs => hp s (.item hitem hs)) htext
  | object _ _ ih =>
      intro level text htext
      exact forall_mem_writeValue_object hl (fun entry hentry => hp entry.1 (.key hentry rfl))
        (fun entry hentry => ih entry hentry fun s hs => hp s (.value hentry hs)) htext

end

/-- With every item on a line of its own there are line feeds besides. -/
theorem Layout.IsIndented.writes {l : Layout Text Empty} {width : ℕ} (h : l.IsIndented width)
    {p : CodePoint → Prop} (hp : HoldsOfPlain p) (hfeed : p '\n') : l.Writes p where
  lineBreak level := by
    intro c hc
    rw [Layout.lineBreak, h.indent] at hc
    rcases List.mem_cons.1 hc with rfl | hc
    · exact hfeed
    · rw [List.eq_of_mem_replicate hc]
      exact hp _ (by decide) (by decide)
  itemMark := h.itemMark ▸ hp.forall_mem (by decide)
  keyMark := h.keyMark ▸ hp.forall_mem (by decide)
  asciiOnly := h.asciiOnly
  plain := hp

theorem ne_carriageReturn_of_le {c : CodePoint} (h : 0x20 ≤ c.toNat) : c ≠ '\r' := by
  rintro rfl
  exact absurd h (by decide)

section

variable {l : Layout Text Empty} {width : ℕ} {d : Document}

/-- No carriage return stands in the text of a document. -/
theorem carriageReturn_notMem_writeValue (hl : l.IsIndented width) (hd : d.IsProper) {level : ℕ}
    {text : List CodePoint} (h : writeValue l level d = .ok text) : .char '\r' ∉ text := by
  have hwrites : l.Writes (· ≠ .char '\r') :=
    hl.writes (fun _ hc _ => ne_carriageReturn_of_le hc) (by decide)
  intro hmem
  exact forall_mem_writeValue hwrites hd (fun _ _ _ _ hc => ne_carriageReturn_of_le hc) level text h
    _ hmem rfl

/-- **A document in a file is read as the document**: its text holds no carriage return, so reading
it under one line ending changes nothing. -/
theorem readL_joinEndings_write (hl : l.IsIndented width) (hd : d.IsProper) {text : Text}
    (h : write l d = .ok text) {room : ℕ} (hroom : d.levels ≤ room) :
    readL room (Text.joinEndings text).toList = .ok d.written := by
  obtain ⟨s, hs, rfl⟩ := exists_writeValue_of_write h
  rw [Text.joinEndings, Text.toList_ofList,
    Text.joinEndingsL_of_not_mem (carriageReturn_notMem_writeValue hl hd hs)]
  exact readL_write hl.isReadable hd h hroom

end

end Json

end Winnow
