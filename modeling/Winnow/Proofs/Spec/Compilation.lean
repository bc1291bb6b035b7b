import Winnow.Language
import Winnow.Proofs.Config.ReadSpec
import Winnow.Proofs.Number.Digits

/-!
# When a specification has a query text

Integers of more than `digitLimit` digits are neither read nor written. They are the only thing that
keeps a specification from its query text, and a text from the scalar that it spells.

* `SpellsInteger` — texts that are a sign, if any, and digits.
* `forms_of_numberOfText?` — the texts that spell numbers.
* `classify_eq_error_iff` — the texts that stand for no scalar.
* `Scalar.Overlong`, `renderLiteral_eq_error_iff` — the scalars that have no literal.
* `query_eq_error_iff`, `exists_query_iff` — the specifications that have no query text.
-/

namespace Winnow

/-! ## Texts of numbers -/

/-- The signs that may stand before the digits of an integer. -/
def signs : List (List CodePoint) := [[], [.char '+'], [.char '-']]

/-- Whether a text spells an integer: blanks at its ends apart, it is a sign and the given digits.
-/
structure SpellsInteger (text : Text) (digits : List CodePoint) : Prop where
  ne_nil : digits ≠ []
  isDigits : IsDigits digits
  spelled : ∃ sign ∈ signs, Text.trimL text.toList = sign ++ digits

/-- What is split off the head of a text is a sign. -/
theorem exists_sign_append (s : List CodePoint) : ∃ sign ∈ signs, s = sign ++ (splitSign s).2 := by
  unfold splitSign
  split
  · exact ⟨[.char '-'], by simp [signs], rfl⟩
  · exact ⟨[.char '+'], by simp [signs], rfl⟩
  · exact ⟨[], by simp [signs], rfl⟩

/-- A sign is split off, and nothing is split off what begins with none. -/
theorem splitSign_append {sign rest : List CodePoint} (hsign : sign ∈ signs)
    (h : ∀ c ∈ rest.head?, c ∉ [.char '+', .char '-']) :
    splitSign (sign ++ rest) = (decide (sign = [.char '-']), rest) := by
  simp only [signs, List.mem_cons, List.not_mem_nil, or_false] at hsign
  rcases hsign with rfl | rfl | rfl
  · rw [List.nil_append, splitSign]
    · rfl
    · rintro rest rfl
      exact h '-' rfl (by simp)
    · rintro rest rfl
      exact h '+' rfl (by simp)
  · rfl
  · rfl

/-- Digits do not begin with a sign. -/
theorem IsDigits.not_sign {digits : List CodePoint} (h : IsDigits digits) :
    ∀ c ∈ digits.head?, c ∉ [.char '+', .char '-'] := by
  intro c hc hmem
  have hdigit := h c (List.mem_of_mem_head? hc)
  simp only [List.mem_cons, List.not_mem_nil, or_false] at hmem
  rcases hmem with rfl | rfl <;> cases hdigit

theorem IsDigits.dropWhile_eq_nil {digits : List CodePoint} (h : IsDigits digits) :
    digits.dropWhile CodePoint.isDigit = [] :=
  List.dropWhile_eq_nil_iff.2 h

theorem IsDigits.takeWhile_eq_self {digits : List CodePoint} (h : IsDigits digits) :
    digits.takeWhile CodePoint.isDigit = digits :=
  List.takeWhile_eq_self_iff.2 h

theorem readInt_eq_error_iff {negative : Bool} {digits : List CodePoint} {cause : TooLong} :
    readInt negative digits = .error cause ↔
      digitLimit < digits.length ∧ cause = ⟨some digits.length⟩ := by
  unfold readInt
  by_cases h : digitLimit < digits.length
  · simp [h, eq_comm]
  · simp [h]

/-- A sign and digits spell an integer. -/
theorem numberOfText?_integer {sign digits : List CodePoint} (hsign : sign ∈ signs)
    (hne : digits ≠ [])
    (hdigits : IsDigits digits) :
    numberOfText? (sign ++ digits) =
      some ((readInt (decide (sign = [.char '-'])) digits).map Number.int) := by
  rw [numberOfText?, splitSign_append hsign hdigits.not_sign]
  dsimp only
  rw [hdigits.dropWhile_eq_nil]
  dsimp only
  rw [hdigits.takeWhile_eq_self, if_neg (mt List.isEmpty_iff.1 hne)]

section

variable {sign whole fraction : List CodePoint}

theorem isEmpty_and_eq_false_iff :
    (whole.isEmpty && fraction.isEmpty) = false ↔ whole ++ fraction ≠ [] := by
  cases whole <;> cases fraction <;> simp

theorem splitSign_point (hsign : sign ∈ signs) (hwhole : IsDigits whole) :
    splitSign (sign ++ whole ++ .char '.' :: fraction) =
      (decide (sign = [.char '-']), whole ++ .char '.' :: fraction) := by
  rw [List.append_assoc]
  refine splitSign_append hsign ?_
  cases whole with
  | nil => simp
  | cons c cs => exact fun d hd => hwhole.not_sign d hd

/-- The digits before a point end there. -/
theorem span_point (hwhole : IsDigits whole) :
    (whole ++ .char '.' :: fraction).takeWhile CodePoint.isDigit = whole ∧
      (whole ++ .char '.' :: fraction).dropWhile CodePoint.isDigit = .char '.' :: fraction :=
  takeWhile_append_of_all hwhole fun c hc => by
    obtain rfl := Option.some.inj hc
    rfl

/-- A sign and digits with a point spell a float. -/
theorem numberOfText?_point (hsign : sign ∈ signs) (hwhole : IsDigits whole)
    (hfraction : IsDigits fraction) (hne : whole ++ fraction ≠ []) :
    numberOfText? (sign ++ whole ++ .char '.' :: fraction) =
      some (.ok (.float (readFloat (decide (sign = [.char '-'])) whole fraction 0))) := by
  obtain ⟨htake, hdrop⟩ := @span_point whole fraction hwhole
  have hdigits :
      (fraction.all CodePoint.isDigit && !(whole.isEmpty && fraction.isEmpty)) = true := by
    rw [List.all_eq_true.2 hfraction, isEmpty_and_eq_false_iff.2 hne]
    rfl
  rw [numberOfText?, splitSign_point hsign hwhole]
  dsimp only
  rw [hdrop, htake]
  exact if_pos hdigits

end

/-- What spells a number is a sign and digits, with a point or without one. -/
theorem forms_of_numberOfText? {s : List CodePoint} {read : Except TooLong Number}
    (h : numberOfText? s = some read) :
    (∃ sign digits, sign ∈ signs ∧ digits ≠ [] ∧ IsDigits digits ∧ s = sign ++ digits) ∨
    ∃ sign whole fraction, sign ∈ signs ∧ IsDigits whole ∧ IsDigits fraction ∧
      whole ++ fraction ≠ [] ∧ s = sign ++ whole ++ .char '.' :: fraction := by
  obtain ⟨sign, hsign, hs⟩ := exists_sign_append s
  unfold numberOfText? at h
  dsimp only at h
  generalize (splitSign s).2 = unsigned at hs h
  have hspan := List.takeWhile_append_dropWhile (p := CodePoint.isDigit) (l := unsigned)
  have hwhole : IsDigits (unsigned.takeWhile CodePoint.isDigit) :=
    fun c hc => List.mem_takeWhile_imp hc
  split at h
  · next hrest =>
      split_ifs at h with hempty
      rw [hrest, List.append_nil] at hspan
      rw [hspan] at hwhole hempty
      exact .inl ⟨sign, unsigned, hsign, mt List.isEmpty_iff.2 hempty, hwhole, hs⟩
  · next fraction hrest =>
      split_ifs at h with hdigits
      rw [Bool.and_eq_true, List.all_eq_true, Bool.not_eq_true',
        isEmpty_and_eq_false_iff] at hdigits
      obtain ⟨hfraction, hne⟩ := hdigits
      rw [hrest] at hspan
      rw [← hspan, ← List.append_assoc] at hs
      exact .inr ⟨sign, _, fraction, hsign, hwhole, hfraction, hne, hs⟩
  · cases h

/-- A text spells a number that cannot be read if it spells an integer of too many digits. -/
theorem numberOfText?_eq_error_iff {s : List CodePoint} {cause : TooLong} :
    numberOfText? s = some (.error cause) ↔
      ∃ digits, digits ≠ [] ∧ IsDigits digits ∧ (∃ sign ∈ signs, s = sign ++ digits) ∧
        digitLimit < digits.length ∧ cause = ⟨some digits.length⟩ := by
  constructor
  · intro h
    rcases forms_of_numberOfText? h with ⟨sign, digits, hsign, hne, hdigits, rfl⟩ |
      ⟨sign, whole, fraction, hsign, hwhole, hfraction, hne, rfl⟩
    · refine ⟨digits, hne, hdigits, ⟨sign, hsign, rfl⟩, ?_⟩
      rw [numberOfText?_integer hsign hne hdigits] at h
      cases hread : readInt (decide (sign = [.char '-'])) digits with
      | error e =>
          rw [hread] at h
          obtain rfl := Except.error.inj (Option.some.inj h)
          exact readInt_eq_error_iff.1 hread
      | ok n =>
          rw [hread] at h
          cases h
    · rw [numberOfText?_point hsign hwhole hfraction hne] at h
      cases h
  · rintro ⟨digits, hne, hdigits, ⟨sign, hsign, rfl⟩, hlong, rfl⟩
    rw [numberOfText?_integer hsign hne hdigits, readInt_eq_error_iff.2 ⟨hlong, rfl⟩]
    rfl

/-- **A text stands for a scalar unless it spells an integer of too many digits.** -/
theorem classify_eq_error_iff {text : Text} {cause : TooLong} :
    Scalar.classify text = .error cause ↔
      ∃ digits, SpellsInteger text digits ∧ digitLimit < digits.length ∧
        cause = ⟨some digits.length⟩ := by
  have hnumber : Scalar.classify text = .error cause ↔
      numberOfText? (Text.trimL text.toList) = some (.error cause) := by
    unfold Scalar.classify
    dsimp only
    cases numberOfText? (Text.trimL text.toList) with
    | none =>
        dsimp only
        split_ifs <;> simp
    | some n => cases n <;> simp [Except.map]
  rw [hnumber, numberOfText?_eq_error_iff]
  constructor
  · rintro ⟨digits, hne, hdigits, hspelled, hlong⟩
    exact ⟨digits, ⟨hne, hdigits, hspelled⟩, hlong⟩
  · rintro ⟨digits, h, hlong⟩
    exact ⟨digits, h.ne_nil, h.isDigits, h.spelled, hlong⟩

/-! ## Scalars without a literal -/

/-- Whether a scalar is, or spells, an integer of too many digits, and what is said of it. -/
def Scalar.Overlong : Scalar → TooLong → Prop
  | .text s, cause => ∃ digits, SpellsInteger s digits ∧ digitLimit < digits.length ∧
      cause = ⟨some digits.length⟩
  | .number (.int n), cause => Nat.pow 10 digitLimit ≤ n.natAbs ∧ cause = ⟨none⟩
  | _, _ => False

/-- An integer that was read is written. -/
theorem exists_write_of_readInt {negative : Bool} {digits : List CodePoint} (h : IsDigits digits)
    {n : ℤ}
    (hread : readInt negative digits = .ok n) : ∃ text, (Number.int n).write = .ok text := by
  rw [readInt] at hread
  by_cases hlong : digitLimit < digits.length
  · rw [if_pos hlong] at hread
    cases hread
  rw [if_neg hlong] at hread
  have hvalue : n.natAbs = digitsValue digits := by
    obtain rfl := Except.ok.inj hread
    cases negative <;> simp
  have hpow : ∀ k, Nat.pow 10 k = 10 ^ k := fun _ => rfl
  have hlt : n.natAbs < Nat.pow 10 digitLimit := by
    rw [hpow, hvalue]
    exact (digitsValue_lt h).trans_le (pow_le_pow_right₀ (by norm_num) (not_lt.1 hlong))
  rw [Number.write, if_pos hlt]
  exact ⟨_, rfl⟩

theorem exists_write_of_numberOfText? {s : List CodePoint} {n : Number}
    (h : numberOfText? s = some (.ok n)) : ∃ text, n.write = .ok text := by
  rcases forms_of_numberOfText? h with ⟨sign, digits, hsign, hne, hdigits, rfl⟩ |
    ⟨sign, whole, fraction, hsign, hwhole, hfraction, hne, rfl⟩
  · rw [numberOfText?_integer hsign hne hdigits] at h
    cases hread : readInt (decide (sign = [.char '-'])) digits with
    | error e =>
        rw [hread] at h
        cases h
    | ok value =>
        rw [hread] at h
        obtain rfl := Except.ok.inj (Option.some.inj h)
        exact exists_write_of_readInt hdigits hread
  · rw [numberOfText?_point hsign hwhole hfraction hne] at h
    obtain rfl := Except.ok.inj (Option.some.inj h)
    exact ⟨_, rfl⟩

/-- What a text stands for is written. -/
theorem exists_render_of_classify {text : Text} {v : Scalar} (h : Scalar.classify text = .ok v) :
    ∃ json, v.render = .ok json := by
  unfold Scalar.classify at h
  dsimp only at h
  cases hnumber : numberOfText? (Text.trimL text.toList) with
  | none =>
      rw [hnumber] at h
      dsimp only at h
      split_ifs at h <;> obtain rfl := Except.ok.inj h <;> exact ⟨_, rfl⟩
  | some read =>
      rw [hnumber] at h
      cases read with
      | error e => cases h
      | ok n =>
          obtain rfl := Except.ok.inj h
          exact exists_write_of_numberOfText? hnumber

theorem numberWrite_eq_error_iff {n : Number} {cause : TooLong} :
    n.write = .error cause ↔ (Scalar.number n).Overlong cause := by
  cases n with
  | int n =>
      rw [Number.write, Scalar.Overlong, ← not_lt]
      by_cases h : n.natAbs < Nat.pow 10 digitLimit
      · rw [if_pos h]
        simp only [reduceCtorEq, h, not_true_eq_false, false_and]
      · rw [if_neg h]
        simp only [Except.error.injEq, h, not_false_eq_true, true_and, eq_comm]
  | float x => simp [Number.write, Scalar.Overlong]
  | undefined origin => simp [Number.write, Scalar.Overlong]

/-- **A scalar has a literal unless it is, or spells, an integer of too many digits.** -/
theorem renderLiteral_eq_error_iff {v : Scalar} {cause : TooLong} :
    renderLiteral v = .error cause ↔ v.Overlong cause := by
  have hrender : ∀ operand : Scalar, v.operand = .ok operand →
      (renderLiteral v = .error cause ↔ operand.render = .error cause) := by
    intro operand hoperand
    rw [renderLiteral, hoperand]
    change (operand.render >>= _) = _ ↔ _
    cases operand.render <;> simp [bind, Except.bind, pure, Except.pure]
  cases v with
  | null => simp [hrender .null rfl, Scalar.render, Scalar.Overlong]
  | bool b => cases b <;> simp [hrender _ rfl, Scalar.render, Scalar.Overlong]
  | number n => exact (hrender _ rfl).trans numberWrite_eq_error_iff
  | text s =>
      cases hclassify : Scalar.classify s with
      | error e =>
          have hliteral : renderLiteral (.text s) = .error e := by
            rw [renderLiteral, Scalar.operand, hclassify]
            rfl
          have hiff := @classify_eq_error_iff s cause
          rw [hclassify] at hiff
          simpa [hliteral, Scalar.Overlong] using hiff
      | ok operand =>
          obtain ⟨json, hjson⟩ := exists_render_of_classify hclassify
          rw [hrender operand hclassify, hjson, Scalar.Overlong, ← classify_eq_error_iff, hclassify]
          simp

/-! ## Specifications without a query text -/

theorem filterRender_eq_error_iff {f : Filter} {cause : TooLong} :
    f.render = .error cause ↔ f.value.Overlong cause := by
  rw [← renderLiteral_eq_error_iff, Filter.render]
  cases renderLiteral f.value <;> simp [bind, Except.bind, pure, Except.pure]

/-- A specification has a query text unless the value of its filter has no literal. -/
theorem query_eq_error_iff {isArray : Bool} {s : Spec} {cause : TooLong} :
    s.query isArray = .error cause ↔ ∃ f, s.filter = some f ∧ f.value.Overlong cause := by
  unfold Spec.query Spec.stages
  cases hfilter : s.filter with
  | none => simp [bind, Except.bind, pure, Except.pure]
  | some f =>
      simp only [Option.some.injEq, exists_eq_left', ← filterRender_eq_error_iff]
      cases f.render <;> simp [bind, Except.bind, pure, Except.pure]

/-- **When a specification has a query text.** Whatever the document, a specification has a query
text unless its filter compares with an integer of too many digits, and then the error tells just
that; likewise a text stands for a scalar unless it spells such an integer. -/
theorem exists_query_iff (s : Spec) (v : Item) :
    ((∃ query, Language.jmesPath.compile v s = .ok query) ↔
      ∀ f, s.filter = some f → ∀ cause, ¬f.value.Overlong cause) ∧
    (∀ cause, Language.jmesPath.compile v s = .error cause ↔
      ∃ f, s.filter = some f ∧ f.value.Overlong cause) ∧
    ∀ text, (∃ scalar, Scalar.classify text = .ok scalar) ↔
      ∀ digits, SpellsInteger text digits → digits.length ≤ digitLimit := by
  have hcompile : ∀ cause, Language.jmesPath.compile v s = .error cause ↔
      ∃ f, s.filter = some f ∧ f.value.Overlong cause := fun _ => query_eq_error_iff
  refine ⟨?_, hcompile, fun text => ?_⟩
  · constructor
    · rintro ⟨query, hquery⟩ f hf cause hlong
      have herror := (hcompile cause).2 ⟨f, hf, hlong⟩
      rw [hquery] at herror
      cases herror
    · intro hnone
      cases hresult : Language.jmesPath.compile v s with
      | ok query => exact ⟨query, rfl⟩
      | error cause =>
          obtain ⟨f, hf, hlong⟩ := (hcompile cause).1 hresult
          exact absurd hlong (hnone f hf cause)
  · constructor
    · rintro ⟨scalar, hscalar⟩ digits hspells
      by_contra hlong
      have herror := classify_eq_error_iff.2 ⟨digits, hspells, not_le.1 hlong, rfl⟩
      rw [hscalar] at herror
      cases herror
    · intro hshort
      cases hresult : Scalar.classify text with
      | ok scalar => exact ⟨scalar, rfl⟩
      | error cause =>
          obtain ⟨digits, hspells, hlong, -⟩ := classify_eq_error_iff.1 hresult
          exact absurd (hshort digits hspells) (not_le.2 hlong)

/-- The digits of an integer that is one digit too long. -/
def manyOnes : List CodePoint := List.replicate 4301 (.char '1')

/-- A setting that compares with the integer, given as a text. -/
def manyOnesSetting : Config.Tree :=
  .mapping [(.text "filter", .mapping
    [(.text "relation", .text "=="), (.text "value", .text (Text.ofList manyOnes))])]

theorem spellsInteger_manyOnes : SpellsInteger (Text.ofList manyOnes) manyOnes where
  ne_nil := mt (List.replicate_eq_nil_iff _).1 (by decide)
  isDigits := by
    intro c hc
    rw [List.eq_of_mem_replicate hc]
    rfl
  spelled := by
    have hblank : ∀ n, (List.replicate n (.char '1')).dropWhile Text.isBlank =
        List.replicate n (.char '1') := by
      intro n
      cases n with
      | zero => rfl
      | succ n => exact List.dropWhile_cons_of_neg (by decide)
    refine ⟨[], by simp [signs], ?_⟩
    rw [Text.toList_ofList, Text.trimL, manyOnes, hblank, List.reverse_replicate, hblank,
      List.reverse_replicate, List.nil_append]

/-- Not every specification that is read has a query text, and not every text stands for a scalar.
-/
theorem not_forall_exists_query :
    ¬((∀ (key : Text) (raw : Option Config.Tree) (s : Spec) (v : Item),
        Config.readSpec key raw = .ok s → ∃ query, Language.jmesPath.compile v s = .ok query) ∧
      ∀ text, ∃ scalar, Scalar.classify text = .ok scalar) := by
  rintro ⟨hcompile, -⟩
  have hlong : digitLimit < manyOnes.length := by
    rw [manyOnes, List.length_replicate]
    decide
  have hread : Config.readSpec "query.spec" (some manyOnesSetting) =
      .ok { filter := some ⟨[], "==", .text (Text.ofList manyOnes)⟩ } := rfl
  obtain ⟨query, hquery⟩ := hcompile _ _ _ .null hread
  have hoverlong : (Scalar.text (Text.ofList manyOnes)).Overlong ⟨some manyOnes.length⟩ :=
    ⟨manyOnes, spellsInteger_manyOnes, hlong, rfl⟩
  have herror : Language.jmesPath.compile .null
      { filter := some ⟨[], "==", .text (Text.ofList manyOnes)⟩ } =
        .error ⟨some manyOnes.length⟩ :=
    query_eq_error_iff.2 ⟨_, rfl, hoverlong⟩
  cases hquery.symm.trans herror

end Winnow
