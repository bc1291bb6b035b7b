import Mathlib
import Winnow.Proofs.Text.CodePoints
import Winnow.Text.Lines

/-!
# Lines that are joined and cut again

Lines that are joined by line feeds are cut into the same lines, as long as no line end stands in
one of them. A first part of the text may hold line ends; it is cut by itself.

* `IsLine` — texts without line ends.
* `isLine_of_mem_splitLines` — what a text is cut into.
* `splitLines_append` — a text is cut at a line feed whatever follows.
* `splitLines_intercalate` — lines after a first part.
* `separators` — the line ends that are no control characters below the blank.
* `feedLines` — a text with line feeds for all line ends; `intercalate_splitLines` — a text that was
  cut and joined again is that text.
-/

namespace Winnow.Text

/-- A text without line ends. -/
def IsLine (s : Text) : Prop := ∀ c ∈ s.toList, isLineEnd c = false

/-! ## Lists of code points -/

/-- What follows a line feed is cut by itself. -/
theorem splitLinesFrom_append (line s rest : List CodePoint) :
    splitLinesFrom line (s ++ .char '\n' :: rest) =
      splitLinesFrom line (s ++ [.char '\n']) ++ splitLinesFrom [] rest := by
  have hfeed : isLineEnd '\n' = true := by decide
  have hreturn : isLineEnd '\r' = true := by decide
  fun_induction splitLinesFrom line s with
  | case1 => simp [splitLinesFrom, hfeed]
  | case2 => simp [splitLinesFrom, hfeed]
  | case3 line s ih => simp [splitLinesFrom, ih]
  | case4 line c s hfeed' hend ih =>
      by_cases hs : s = []
      · subst hs
        by_cases hc : c = '\r'
        · subst hc
          simp [splitLinesFrom]
        · simp [splitLinesFrom, hc, hend, hfeed]
      · obtain ⟨d, s, rfl⟩ := List.exists_cons_of_ne_nil hs
        have hpair : ¬(c = '\r' ∧ d = '\n') := by
          rintro ⟨rfl, rfl⟩
          exact hfeed' s rfl rfl
        simp_all [splitLinesFrom]
  | case5 line c s hfeed' hend ih =>
      have hc : c ≠ '\r' := by
        rintro rfl
        exact hend hreturn
      simp_all [splitLinesFrom]

/-- A text without line ends is one line, the empty one before its line feed too. -/
theorem splitLinesFrom_line {s : List CodePoint} (h : ∀ c ∈ s, isLineEnd c = false)
    (line : List CodePoint) :
    splitLinesFrom line (s ++ [.char '\n']) = [line.reverse ++ s] := by
  have hfeed : isLineEnd '\n' = true := by decide
  induction s generalizing line with
  | nil => simp [splitLinesFrom, hfeed]
  | cons c s ih =>
      obtain ⟨hc, hs⟩ := List.forall_mem_cons.1 h
      have hne : c ≠ '\r' := by
        rintro rfl
        exact absurd hc (by decide)
      rw [List.cons_append, splitLinesFrom]
      · simp [hc, ih hs]
      · intro rest hreturn
        exact absurd hreturn hne

theorem isLineEnd_of_mem_splitLinesFrom {line s l : List CodePoint}
    (hline : ∀ c ∈ line, isLineEnd c = false) (h : l ∈ splitLinesFrom line s) :
    ∀ c ∈ l, isLineEnd c = false := by
  fun_induction splitLinesFrom line s with
  | case1 => simp at h
  | case2 line hempty =>
      obtain rfl := List.mem_singleton.1 h
      simpa using hline
  | case3 line rest ih =>
      rcases List.mem_cons.1 h with rfl | h
      · simpa using hline
      · exact ih (by simp) h
  | case4 line c rest hfeed hend ih =>
      rcases List.mem_cons.1 h with rfl | h
      · simpa using hline
      · exact ih (by simp) h
  | case5 line c rest hfeed hend ih =>
      apply ih ?_ h
      intro d hd
      rcases List.mem_cons.1 hd with rfl | hd
      · simpa using hend
      · exact hline d hd

/-! ## Texts -/

/-- The lines that a text is cut into hold no line ends. -/
theorem isLine_of_mem_splitLines {s line : Text} (h : line ∈ splitLines s) : IsLine line := by
  obtain ⟨l, hl, rfl⟩ := List.mem_map.1 h
  intro c hc
  rw [Text.toList_ofList] at hc
  exact isLineEnd_of_mem_splitLinesFrom (by simp) hl c hc

theorem splitLines_append (s rest : Text) :
    splitLines (s ++ "\n" ++ rest) = splitLines (s ++ "\n") ++ splitLines rest := by
  have happend := splitLinesFrom_append [] s.toList rest.toList
  simp only [splitLines, splitLinesL, Text.toList_append, List.append_assoc, ← List.map_append]
  exact congrArg (List.map Text.ofList) happend

/-- A line is cut from its line feed. -/
theorem splitLines_line {line : Text} (h : IsLine line) : splitLines (line ++ "\n") = [line] := by
  have hline := splitLinesFrom_line h []
  simp only [splitLines, splitLinesL, Text.toList_append]
  exact (congrArg (List.map Text.ofList) hline).trans (by simp)

/-- **Lines that are joined are cut again**: the first part by itself, and the others as they were.
-/
theorem splitLines_intercalate (first : Text) {lines : List Text}
    (h : ∀ line ∈ lines, IsLine line) :
    splitLines (Text.intercalate "\n" (first :: lines) ++ "\n") =
      splitLines (first ++ "\n") ++ lines := by
  induction lines generalizing first with
  | nil => simp
  | cons line lines ih =>
      obtain ⟨hline, hlines⟩ := List.forall_mem_cons.1 h
      rw [Text.intercalate_cons_of_ne_nil (by simp), Text.append_assoc, splitLines_append,
        ih line hlines, splitLines_line hline, List.singleton_append]

/-! ## Cutting and joining -/

/-- A text with a line feed in the place of every line end. -/
def feedLines (s : List CodePoint) : List CodePoint :=
  s.map fun c => if isLineEnd c then .char '\n' else c

/-- The characters that end a line and are no control characters below the blank: next line, and the
line and paragraph separators. -/
def separators : List CodePoint := ['\u0085', '\u2028', '\u2029']

theorem mem_separators_iff {c : CodePoint} :
    c ∈ separators ↔ isLineEnd c = true ∧ 0x20 ≤ c.toNat := by
  have hall : ∀ c ∈ separators, isLineEnd c = true ∧ 0x20 ≤ c.toNat := by
    simp [separators, isLineEnd]
  refine ⟨hall c, ?_⟩
  rintro ⟨hend, hlow⟩
  have hvalues : c.toNat = 0x85 ∨ c.toNat = 0x2028 ∨ c.toNat = 0x2029 := by
    simp only [isLineEnd, Bool.or_eq_true, Bool.and_eq_true, decide_eq_true_eq, beq_iff_eq] at hend
    omega
  rw [← CodePoint.ofNat_toNat c]
  rcases hvalues with h | h | h <;> rw [h] <;> decide

theorem feedLines_append (s t : List CodePoint) : feedLines (s ++ t) = feedLines s ++ feedLines t :=
  List.map_append

/-- Where all line ends are line feeds nothing changes. -/
theorem feedLines_eq_self {s : List CodePoint} (h : ∀ c ∈ s, isLineEnd c = true → c = .char '\n') :
    feedLines s = s := by
  refine (List.map_congr_left fun c hc => ?_).trans (List.map_id s)
  by_cases hend : isLineEnd c = true
  · rw [if_pos hend, h c hc hend, id]
  · rw [if_neg hend, id]

theorem splitLinesFrom_ne_nil (line : List CodePoint) {s : List CodePoint} (h : s ≠ []) :
    splitLinesFrom line s ≠ [] := by
  fun_induction splitLinesFrom line s with
  | case1 => exact absurd rfl h
  | case2 => exact absurd rfl h
  | case3 => exact List.cons_ne_nil _ _
  | case4 => exact List.cons_ne_nil _ _
  | case5 line c rest _ _ ih =>
      by_cases hrest : rest = []
      · simp [hrest, splitLinesFrom]
      · exact ih hrest

theorem intercalate_splitLinesFrom {line s : List CodePoint} (hreturn : .char '\r' ∉ s)
    (hlast : ∀ c ∈ s.getLast?, isLineEnd c = false) :
    [.char '\n'].intercalate (splitLinesFrom line s) = line.reverse ++ feedLines s := by
  fun_induction splitLinesFrom line s with
  | case1 line hempty =>
      rw [List.isEmpty_iff.1 hempty]
      rfl
  | case2 line hempty => simp [feedLines]
  | case3 => simp at hreturn
  | case4 line c rest _ hend ih =>
      have hrest : rest ≠ [] := by
        rintro rfl
        rw [hlast c rfl] at hend
        cases hend
      rw [List.getLast?_cons_of_ne_nil hrest] at hlast
      rw [List.intercalate_cons_of_ne_nil (splitLinesFrom_ne_nil [] hrest),
        ih (mt (List.mem_cons_of_mem c) hreturn) hlast]
      simp [feedLines, hend]
  | case5 line c rest _ hend ih =>
      have hmore : ∀ d ∈ rest.getLast?, isLineEnd d = false := by
        intro d hd
        have hrest : rest ≠ [] := by
          rintro rfl
          cases hd
        exact hlast d (by rwa [List.getLast?_cons_of_ne_nil hrest])
      rw [ih (mt (List.mem_cons_of_mem c) hreturn) hmore]
      simp [feedLines, hend]

/-- **A text that was cut into lines and joined again** has line feeds for its line ends, if it
holds no carriage return and does not end a line. -/
theorem intercalate_splitLines {s : Text} (hreturn : .char '\r' ∉ s.toList)
    (hlast : ∀ c ∈ s.toList.getLast?, isLineEnd c = false) :
    Text.intercalate "\n" (splitLines s) = Text.ofList (feedLines s.toList) := by
  have hlines : (splitLines s).map Text.toList = splitLinesFrom [] s.toList := by
    simp [splitLines, splitLinesL, Function.comp_def]
  have hjoined : [.char '\n'].intercalate (splitLinesFrom [] s.toList) = feedLines s.toList :=
    intercalate_splitLinesFrom hreturn hlast
  apply Text.toList_injective
  rw [Text.toList_intercalate, hlines]
  exact hjoined

end Winnow.Text
