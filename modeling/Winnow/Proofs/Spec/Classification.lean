import Winnow.Number.Spelled
import Winnow.Proofs.Number.Characters
import Winnow.Proofs.Spec.Compilation
import Winnow.Proofs.Text.Spelling

/-!
# The grammar of scalars

A text stands for the number or the keyword that it spells, and for itself if it spells neither.

* `signedValue`, `decimalValue` — the integer that a sign and digits write, place by place.
* `Spells` — the texts of numbers and keywords.
* `exists_spells_of_numberOfText?` — the numbers that are read are spelled.
* `classify_of_spells`, `classify_of_not_spells`, `spells_or_eq_of_classify` — what a text stands
  for.
* `classify_grammar` — the whole law, with integers read back from their own text.
-/

namespace Winnow

/-! ## The grammar -/

/-- The natural that decimal digits write: each digit counts ten times what the one after it does.
-/
def decimalValue (digits : List CodePoint) : ℕ :=
  Nat.ofDigits 10 (digits.reverse.map fun c => c.toNat - '0'.toNat)

/-- A natural with a sign before it. -/
def signedValue (sign : List CodePoint) (n : ℕ) : ℤ := if sign = [.char '-'] then -n else n

/-- The texts without blanks at their ends that spell a number or a keyword. A number is a sign, if
any, and digits; a point before, between or after the digits makes it a float, the one that the text
is converted to. -/
inductive Spells : List CodePoint → Scalar → Prop
  | integer {sign digits : List CodePoint} (hsign : sign ∈ signs) (hne : digits ≠ [])
      (hdigits : IsDigits digits) :
      Spells (sign ++ digits) (.number (.int (signedValue sign (decimalValue digits))))
  | float {sign whole fraction : List CodePoint} {x : Float} (hsign : sign ∈ signs)
      (hwhole : IsDigits whole) (hfraction : IsDigits fraction) (hne : whole ++ fraction ≠ [])
      (hx : spelledFloat? (sign ++ whole ++ .char '.' :: fraction) = some x) :
      Spells (sign ++ whole ++ .char '.' :: fraction) (.number (.float x))
  | null : Spells (Text.toList "null") .null
  | true : Spells (Text.toList "true") (.bool true)
  | false : Spells (Text.toList "false") (.bool false)

/-- What is spelled is no text. -/
theorem Spells.ne_text {core : List CodePoint} {v : Scalar} (h : Spells core v) (s : Text) :
    v ≠ .text s := by
  cases h <;> exact fun hv => nomatch hv

/-! ## Values -/

theorem decimalValue_eq (digits : List CodePoint) : decimalValue digits = digitsValue digits := by
  induction digits with
  | nil => rfl
  | cons c cs ih =>
      rw [decimalValue] at ih ⊢
      rw [List.reverse_cons, List.map_append, Nat.ofDigits_append, ih, List.length_map,
        List.length_reverse, digitsValue_cons, List.map_singleton, Nat.ofDigits_singleton]
      exact (Nat.add_comm _ _).trans (congrArg (· + _) (Nat.mul_comm _ _))

theorem readInt_of_le {sign digits : List CodePoint} (h : digits.length ≤ digitLimit) :
    readInt (decide (sign = [.char '-'])) digits =
      .ok (signedValue sign (decimalValue digits)) := by
  rw [readInt, if_neg (not_lt.2 h), decimalValue_eq, signedValue]
  by_cases hminus : sign = [.char '-'] <;> simp [hminus]

/-- The float of a text with a point is the one that the text is converted to. -/
theorem spelledFloat?_point {sign whole fraction : List CodePoint} (hsign : sign ∈ signs)
    (hwhole : IsDigits whole) (hfraction : IsDigits fraction) (hne : whole ++ fraction ≠ []) :
    spelledFloat? (sign ++ whole ++ .char '.' :: fraction) =
      some (readFloat (decide (sign = [.char '-'])) whole fraction 0) := by
  obtain ⟨htake, hdrop⟩ := @span_point whole fraction hwhole
  -- the words that are converted to floats have no point
  have hword :
      ∀ word : List CodePoint, .char '.' ∉ word →
        (whole ++ .char '.' :: fraction).map CodePoint.toLower ≠ word := by
    rintro word hpoint rfl
    exact hpoint (List.mem_map.2 ⟨'.', by simp, rfl⟩)
  have hinfinity :
      ¬(decide ((whole ++ .char '.' :: fraction).map CodePoint.toLower = (Text.toList "inf")) ||
      decide ((whole ++ .char '.' :: fraction).map CodePoint.toLower = (Text.toList "infinity"))) =
        true := by
    rw [Bool.or_eq_true, decide_eq_true_eq, decide_eq_true_eq]
    exact not_or.2 ⟨hword _ (by decide), hword _ (by decide)⟩
  rw [spelledFloat?, splitSign_point hsign hwhole]
  dsimp only
  rw [if_neg hinfinity, if_neg (hword _ (by decide)), hdrop, htake]
  change (if (whole.isEmpty && (fraction.takeWhile CodePoint.isDigit).isEmpty) = true then none
    else (spelledExponent? (fraction.dropWhile CodePoint.isDigit)).map
      (readFloat _ whole (fraction.takeWhile CodePoint.isDigit))) = _
  rw [hfraction.takeWhile_eq_self, hfraction.dropWhile_eq_nil, isEmpty_and_eq_false_iff.2 hne]
  rfl

/-! ## What a text stands for -/

/-- A number that is read is spelled. -/
theorem exists_spells_of_numberOfText? {s : List CodePoint} {read : Except TooLong Number}
    (h : numberOfText? s = some read) :
    ∃ n, Spells s (.number n) ∧ ∀ m, read = .ok m → m = n := by
  rcases forms_of_numberOfText? h with ⟨sign, digits, hsign, hne, hdigits, rfl⟩ |
    ⟨sign, whole, fraction, hsign, hwhole, hfraction, hne, rfl⟩
  · refine ⟨_, .integer hsign hne hdigits, ?_⟩
    rintro m rfl
    rw [numberOfText?_integer hsign hne hdigits] at h
    by_cases hshort : digits.length ≤ digitLimit
    · rw [readInt_of_le hshort] at h
      exact (Except.ok.inj (Option.some.inj h)).symm
    · rw [readInt, if_pos (not_le.1 hshort)] at h
      cases h
  · refine ⟨_,
      .float hsign hwhole hfraction hne (spelledFloat?_point hsign hwhole hfraction hne), ?_⟩
    rintro m rfl
    rw [numberOfText?_point hsign hwhole hfraction hne] at h
    exact (Except.ok.inj (Option.some.inj h)).symm

/-- **A text stands for what it spells.** -/
theorem classify_of_spells {text : Text} {core : List CodePoint} {v : Scalar} (h : Spells core v)
    (hcore : Text.trimL text.toList = core) (hshort : core.countP CodePoint.isDigit ≤ digitLimit) :
    Scalar.classify text = .ok v := by
  rw [Scalar.classify, hcore]
  cases h with
  | @integer sign digits hsign hne hdigits =>
      have hcount : digits.length ≤ digitLimit := by
        rw [List.countP_append, List.countP_eq_length.2 hdigits] at hshort
        omega
      rw [numberOfText?_integer hsign hne hdigits, readInt_of_le hcount]
      rfl
  | float hsign hwhole hfraction hne hx =>
      rw [spelledFloat?_point hsign hwhole hfraction hne] at hx
      rw [numberOfText?_point hsign hwhole hfraction hne, Option.some.inj hx]
      rfl
  | null => rfl
  | true => rfl
  | false => rfl

/-- **A text that spells nothing stands for itself**, with its blanks. -/
theorem classify_of_not_spells {text : Text} (h : ∀ v, ¬Spells (Text.trimL text.toList) v) :
    Scalar.classify text = .ok (.text text) := by
  have hnumber : numberOfText? (Text.trimL text.toList) = none := by
    cases hread : numberOfText? (Text.trimL text.toList) with
    | none => rfl
    | some read =>
        obtain ⟨n, hn, -⟩ := exists_spells_of_numberOfText? hread
        exact absurd hn (h _)
  have hkeyword :
      ∀ {word : List CodePoint} {v : Scalar}, Spells word v → Text.trimL text.toList ≠ word := by
    rintro word v hv hword
    exact h v (hword ▸ hv)
  rw [Scalar.classify, hnumber]
  dsimp only
  rw [if_neg (hkeyword .null), if_neg (hkeyword .true), if_neg (hkeyword .false)]

/-- A text stands for what it spells or for itself, and for nothing else. -/
theorem spells_or_eq_of_classify {text : Text} {v : Scalar} (h : Scalar.classify text = .ok v) :
    Spells (Text.trimL text.toList) v ∨ v = .text text := by
  unfold Scalar.classify at h
  dsimp only at h
  split at h
  · next read hread =>
      obtain ⟨n, hn, hvalue⟩ := exists_spells_of_numberOfText? hread
      cases read with
      | error cause => cases h
      | ok m =>
          obtain rfl := Except.ok.inj h
          exact .inl (hvalue m rfl ▸ hn)
  · split_ifs at h with hnull htrue hfalse <;> obtain rfl := Except.ok.inj h
    · exact .inl (hnull ▸ .null)
    · exact .inl (htrue ▸ .true)
    · exact .inl (hfalse ▸ .false)
    · exact .inr rfl

/-- What stands for a text is that text. -/
theorem eq_of_classify_eq_text {text s : Text} (h : Scalar.classify text = .ok (.text s)) :
    s = text := by
  rcases spells_or_eq_of_classify h with hspells | hself
  · exact absurd rfl (hspells.ne_text s)
  · exact Scalar.text.inj hself

/-! ## Integers -/

/-- An integer is spelled by its own text. -/
theorem spells_writeInt (n : ℤ) : Spells (writeInt n) (.number (.int n)) := by
  have hdigits := IsDigits.decimal n.natAbs
  have hne : Text.decimal n.natAbs ≠ [] := Text.decimal_ne_nil
  have hvalue : decimalValue (Text.decimal n.natAbs) = n.natAbs := by
    rw [decimalValue_eq, digitsValue_decimal]
  unfold writeInt
  split_ifs with hnegative
  · have hspells := @Spells.integer [.char '-'] _ (by simp [signs]) hne hdigits
    rw [hvalue, signedValue, if_pos rfl, Int.ofNat_natAbs_of_nonpos hnegative.le,
      neg_neg] at hspells
    exact hspells
  · have hspells := @Spells.integer [] _ (by simp [signs]) hne hdigits
    rw [hvalue, signedValue, if_neg (by decide),
      Int.natAbs_of_nonneg (not_lt.1 hnegative)] at hspells
    exact hspells

theorem countP_isDigit_writeInt (n : ℤ) :
    (writeInt n).countP CodePoint.isDigit = (Text.decimal n.natAbs).length := by
  have hcount := List.countP_eq_length.2 (IsDigits.decimal n.natAbs)
  unfold writeInt
  split_ifs
  · rw [List.countP_cons_of_neg (by decide), hcount]
  · exact hcount

/-- There are no blanks in the text of an integer. -/
theorem not_isBlank_writeInt (n : ℤ) : ∀ c ∈ writeInt n, Text.isBlank c = false := by
  have htext : IsNumberText (writeInt n) := .signed (.digits (.decimal _))
  have hmark : ∀ c ∈ numberMarks, Text.isBlank c = false := by simp [numberMarks, Text.isBlank]
  refine htext.forall_mem (fun c hc => Text.not_isBlank_of_visible ?_) hmark
  obtain ⟨hlow, hhigh⟩ := CodePoint.isDigit_iff.1 hc
  exact ⟨le_trans (by decide) hlow, hhigh.trans (by decide)⟩

/-! ## The law -/

/-- **The grammar of scalars.** A text of not too many digits, without the blanks at its ends,
stands for the number or the keyword that it spells; if it spells none it stands for itself, and
only for itself does a text ever stand. An integer is read back from its own text, whatever blanks
are around it. -/
theorem classify_grammar :
    (∀ text core v, text.toList.countP CodePoint.isDigit ≤ digitLimit →
      Text.IsCore core text.toList →
      (Scalar.classify text = .ok v ↔ Spells core v ∨ v = .text text ∧ ∀ w, ¬Spells core w)) ∧
    (∀ text s, Scalar.classify text = .ok (.text s) → s = text) ∧
    ∀ n : ℤ, (Text.decimal n.natAbs).length ≤ digitLimit → ∀ before after : Text,
      (∀ c ∈ before.toList, Text.isBlank c = true) → (∀ c ∈ after.toList, Text.isBlank c = true) →
        Scalar.classify (before ++ Text.ofList (writeInt n) ++ after) = .ok (.number (.int n)) := by
  refine ⟨fun text core v hshort hcore => ?_, fun _ _ => eq_of_classify_eq_text,
    fun n hn before after hbefore hafter => ?_⟩
  · obtain ⟨before, after, hs, -, -⟩ := hcore.around
    have hcount : core.countP CodePoint.isDigit ≤ digitLimit := by
      rw [hs, List.countP_append, List.countP_append] at hshort
      omega
    have hspelled : ∀ w, Spells core w → Scalar.classify text = .ok w := fun w hw =>
      classify_of_spells hw hcore.trimL_eq hcount
    constructor
    · intro hv
      rcases spells_or_eq_of_classify hv with hspells | rfl
      · exact .inl (hcore.trimL_eq ▸ hspells)
      · refine .inr ⟨rfl, fun w hw => hw.ne_text text ?_⟩
        exact Except.ok.inj ((hspelled w hw).symm.trans hv)
    · rintro (hv | ⟨rfl, hnone⟩)
      · exact hspelled v hv
      · exact classify_of_not_spells (by rwa [hcore.trimL_eq])
  · have hcore : Text.IsCore (writeInt n) (before ++ Text.ofList (writeInt n) ++ after).toList := by
      rw [Text.toList_append, Text.toList_append, Text.toList_ofList]
      exact Text.isCore_append hbefore hafter (not_isBlank_writeInt n)
    exact classify_of_spells (spells_writeInt n) hcore.trimL_eq
      ((countP_isDigit_writeInt n).trans_le hn)

theorem classify_grammar_samples :
    Scalar.classify "\u2003+007 " = .ok (.number (.int 7)) ∧
      Scalar.classify "-.5" = .ok (.number (.float (-0.5))) ∧
      (∀ w, ¬Spells (Text.toList "1e5") w) ∧
      Scalar.classify "\t-12 " = .ok (.number (.int (-12))) := by
  obtain ⟨hlaw, -, hinteger⟩ := classify_grammar
  have hsigned := hlaw "\u2003+007 " (Text.toList "+007") (.number (.int 7)) (by decide)
    (Text.isCore_iff.2 (by decide +kernel))
  have hpoint := hlaw "-.5" (Text.toList "-.5") (.number (.float (-0.5))) (by decide)
    (Text.isCore_iff.2 (by decide +kernel))
  have hself :=
    hlaw "1e5" (Text.toList "1e5") (.text "1e5") (by decide) (Text.isCore_iff.2 (by decide +kernel))
  have hblanks := hinteger (-12) (by decide +kernel) "\t" " " (by simp [Text.isBlank])
    (by simp [Text.isBlank])
  have htext : "\t" ++ Text.ofList (writeInt (-12)) ++ " " = "\t-12 " := by decide +kernel
  have hx : spelledFloat? (Text.toList "-.5") = some (-0.5) := by decide +kernel
  refine ⟨hsigned.2 (.inl ?_), hpoint.2 (.inl ?_), ?_, ?_⟩
  · exact @Spells.integer [.char '+'] (Text.toList "007") (by decide) (by decide)
      (List.all_eq_true.1 (by decide))
  · exact @Spells.float [.char '-'] [] [.char '5'] _ (by decide) (by simp [IsDigits])
      (by simp [IsDigits])
      (by decide) hx
  · rcases hself.1 (by decide +kernel) with hspells | ⟨-, hnone⟩
    · exact absurd rfl (hspells.ne_text "1e5")
    · exact hnone
  · exact htext ▸ hblanks

end Winnow
