import Winnow.Json.Reader
import Winnow.Proofs.Number.ReadFloat
import Winnow.Proofs.Number.Shortest

/-!
# Numbers are read back

What is written of a number is read as that number, whatever follows it, as long as what follows
could not belong to a number.

* `EndsNumber` — what may follow a number.
* `readMagnitude_integer`, `readMagnitude_fraction`, `readMagnitude_exponent`, … — the forms in
  which numbers are written.
* `ReadsDigits`, `readMagnitude_writeDigits` — the digits of a float are read in each form they
  take.
* `readNumber_writeInt`, `readNumber_write` — integers and floats are read back.
-/

namespace Winnow.Json

open Parts (Canonical)
open Rounding (Nearest)

/-! ## What may follow -/

/-- What follows a number does not begin with anything that could belong to the number. -/
def EndsNumber (rest : List CodePoint) : Prop :=
  ∀ c ∈ rest.head?, c.isDigit = false ∧ c ≠ '.' ∧ c ≠ 'e' ∧ c ≠ 'E'

theorem endsNumber_nil : EndsNumber [] := fun _ h => nomatch h

theorem EndsNumber.isDigit {rest : List CodePoint} (h : EndsNumber rest) :
    ∀ c ∈ rest.head?, c.isDigit = false := fun c hc => (h c hc).1

theorem EndsNumber.readFraction {rest : List CodePoint} (h : EndsNumber rest) :
    readFraction rest = none := by
  cases rest with
  | nil => rfl
  | cons c cs =>
      have hc := (h c rfl).2.1
      unfold Json.readFraction
      split
      · next heq => exact absurd (List.cons.inj heq).1 hc
      · rfl

theorem EndsNumber.readExponent {rest : List CodePoint} (h : EndsNumber rest) :
    readExponent rest = none := by
  cases rest with
  | nil => rfl
  | cons c cs =>
      obtain ⟨-, -, h1, h2⟩ := h c rfl
      simp [Json.readExponent, h1, h2]

/-! ## The parts of a number -/

/-- The whole part of a number: zero, or digits that do not begin with zero. -/
inductive IsWhole : List CodePoint → Prop
  | zero : IsWhole [.char '0']
  | digits {c : CodePoint} {cs : List CodePoint} (hne : c ≠ '0') (h : IsDigits (c :: cs)) : IsWhole
      (c :: cs)

theorem isWhole_decimal (n : ℕ) : IsWhole (Text.decimal n) := by
  rcases Nat.eq_zero_or_pos n with rfl | hn
  · rw [Text.decimal_zero]
    exact .zero
  · obtain ⟨c, cs, h, -, hne⟩ := Text.exists_decimal_eq_cons hn
    have := IsDigits.decimal n
    rw [h] at this ⊢
    exact .digits hne this

theorem readMagnitude_whole (negative : Bool) {whole rest : List CodePoint} (h : IsWhole whole)
    (hrest : ∀ c ∈ rest.head?, c.isDigit = false) :
    readMagnitude negative (whole ++ rest) = readNumberFrom negative whole rest := by
  cases h with
  | zero => rfl
  | @digits c cs hne h =>
      have hc := h c List.mem_cons_self
      have hcs : IsDigits cs := h.sublist (List.sublist_cons_self c cs)
      rw [List.cons_append]
      unfold readMagnitude
      split
      · next heq => exact absurd (List.cons.inj heq).1 hne
      · next heq =>
          obtain ⟨rfl, rfl⟩ := List.cons.inj heq
          rw [if_pos hc, hcs.takeWhile_append hrest, hcs.dropWhile_append hrest]
      · next heq => exact absurd heq (List.cons_ne_nil _ _)

theorem readFraction_digits {fraction rest : List CodePoint} (hne : fraction ≠ [])
    (h : IsDigits fraction) (hrest : ∀ c ∈ rest.head?, c.isDigit = false) :
    readFraction (.char '.' :: (fraction ++ rest)) = some (fraction, rest) := by
  rw [readFraction, h.takeWhile_append hrest, h.dropWhile_append hrest,
    if_neg (mt List.isEmpty_iff.1 hne)]

theorem readExponentDigits_digits (negative : Bool) {digits rest : List CodePoint}
    (hne : digits ≠ [])
    (h : IsDigits digits) (hrest : ∀ c ∈ rest.head?, c.isDigit = false) :
    readExponentDigits negative (digits ++ rest) =
      some (if negative then -(digitsValue digits : ℤ) else digitsValue digits, rest) := by
  rw [readExponentDigits, h.takeWhile_append hrest, h.dropWhile_append hrest,
    if_neg (mt List.isEmpty_iff.1 hne)]

/-- The digits of a written exponent, at least two. -/
def exponentDigits (e : ℤ) : List CodePoint :=
  Text.zeros (2 - (Text.decimal e.natAbs).length) ++ Text.decimal e.natAbs

theorem isDigits_exponentDigits (e : ℤ) : IsDigits (exponentDigits e) :=
  (IsDigits.zeros _).append (IsDigits.decimal _)

theorem exponentDigits_ne_nil (e : ℤ) : exponentDigits e ≠ [] :=
  List.append_ne_nil_of_right_ne_nil _ Text.decimal_ne_nil

@[simp] theorem digitsValue_exponentDigits (e : ℤ) : digitsValue (exponentDigits e) = e.natAbs := by
  rw [exponentDigits, digitsValue_append, digitsValue_zeros, digitsValue_decimal, zero_mul,
    zero_add]

theorem writeExponent_eq (e : ℤ) :
    FloatLayout.plain.writeExponent e =
      .char 'e' :: (if e < 0 then .char '-' else .char '+') :: exponentDigits e := rfl

/-- A written exponent is read back. -/
theorem readExponent_writeExponent (e : ℤ) {rest : List CodePoint}
    (hrest : ∀ c ∈ rest.head?, c.isDigit = false) :
    readExponent (FloatLayout.plain.writeExponent e ++ rest) = some (e, rest) := by
  have hread := fun negative => readExponentDigits_digits negative (exponentDigits_ne_nil e)
    (isDigits_exponentDigits e) hrest
  simp only [digitsValue_exponentDigits] at hread
  rw [writeExponent_eq]
  split_ifs with he
  · refine (hread true).trans ?_
    rw [if_pos rfl, show -(e.natAbs : ℤ) = e by omega]
  · refine (hread false).trans ?_
    rw [if_neg Bool.false_ne_true, show (e.natAbs : ℤ) = e by omega]

theorem writeExponent_head (e : ℤ) (rest : List CodePoint) :
    (FloatLayout.plain.writeExponent e ++ rest).head? = some 'e' := rfl

/-! ## The forms of a number -/

theorem readMagnitude_integer {negative : Bool} {whole rest : List CodePoint} (h : IsWhole whole)
    (hlen : whole.length ≤ digitLimit) (hrest : EndsNumber rest) :
    readMagnitude negative (whole ++ rest) =
      .ok (.int (if negative then -(digitsValue whole : ℤ) else digitsValue whole), rest) := by
  rw [readMagnitude_whole negative h hrest.isDigit, readNumberFrom, hrest.readFraction]
  dsimp only
  rw [hrest.readExponent]
  dsimp only
  rw [readInt, if_neg (Nat.not_lt.2 hlen)]

theorem readMagnitude_fraction {negative : Bool} {whole fraction rest : List CodePoint}
    (hw : IsWhole whole) (hne : fraction ≠ []) (hf : IsDigits fraction) (hrest : EndsNumber rest) :
    readMagnitude negative (whole ++ .char '.' :: fraction ++ rest) =
      .ok (.float (readFloat negative whole fraction 0), rest) := by
  rw [List.append_assoc, readMagnitude_whole negative hw (by simp), readNumberFrom,
    List.cons_append, readFraction_digits hne hf hrest.isDigit]
  dsimp only
  rw [hrest.readExponent]
  rfl

theorem readMagnitude_exponent {negative : Bool} {whole rest : List CodePoint} (hw : IsWhole whole)
    (e : ℤ) (hrest : EndsNumber rest) :
    readMagnitude negative (whole ++ FloatLayout.plain.writeExponent e ++ rest) =
      .ok (.float (readFloat negative whole [] e), rest) := by
  have hnone : readFraction (FloatLayout.plain.writeExponent e ++ rest) = none := rfl
  rw [List.append_assoc, readMagnitude_whole negative hw, readNumberFrom, hnone]
  · dsimp only
    rw [readExponent_writeExponent e hrest.isDigit]
  · intro c hc
    rw [writeExponent_head] at hc
    obtain rfl := Option.some.inj hc
    rfl

theorem readMagnitude_fraction_exponent {negative : Bool} {whole fraction rest : List CodePoint}
    (hw : IsWhole whole) (hne : fraction ≠ []) (hf : IsDigits fraction) (e : ℤ)
    (hrest : EndsNumber rest) :
    readMagnitude negative
      (whole ++ .char '.' :: (fraction ++ FloatLayout.plain.writeExponent e) ++ rest) =
      .ok (.float (readFloat negative whole fraction e), rest) := by
  have hhead : ∀ c ∈ (FloatLayout.plain.writeExponent e ++ rest).head?, c.isDigit = false := by
    intro c hc
    rw [writeExponent_head] at hc
    obtain rfl := Option.some.inj hc
    rfl
  rw [List.append_assoc, readMagnitude_whole negative hw (by simp), readNumberFrom,
    List.cons_append, List.append_assoc, readFraction_digits hne hf hhead]
  dsimp only
  rw [readExponent_writeExponent e hrest.isDigit]
  rfl

/-! ## Floats -/

/-- The digits of a float and the exponent of the last of them, as the parts of a number say them.
-/
structure Denotes (digits : List CodePoint) (k : ℤ) (whole fraction : List CodePoint) (e : ℤ) :
    Prop where
  isDigits : IsDigits (whole ++ fraction)
  value : (digitsValue (whole ++ fraction) : ℚ) * 10 ^ (e - fraction.length) =
    digitsValue digits * 10 ^ k

theorem Denotes.pos {digits whole fraction : List CodePoint} {k e : ℤ}
    (h : Denotes digits k whole fraction e) (hpos : 0 < digitsValue digits) :
    0 < digitsValue (whole ++ fraction) := by
  rw [Nat.pos_iff_ne_zero]
  intro h0
  have hv := h.value
  have hd : (0 : ℚ) < digitsValue digits := by exact_mod_cast hpos
  have hk : (0 : ℚ) < 10 ^ k := zpow_pos (by norm_num) k
  rw [h0, Nat.cast_zero, zero_mul] at hv
  exact (mul_pos hd hk).ne hv

theorem denotes_append {digits a b : List CodePoint} {k e : ℤ} (h : IsDigits digits)
    (hsplit : a ++ b = digits) (he : e - b.length = k) : Denotes digits k a b e := by
  subst hsplit he
  exact ⟨h, rfl⟩

/-- Zeros before the digits of a value below one. -/
theorem denotes_small {digits : List CodePoint} {k : ℤ} (h : IsDigits digits)
    (hpoint : digits.length + k ≤ 0) :
    Denotes digits k [.char '0'] (Text.zeros (-(digits.length + k)).toNat ++ digits) 0 where
  isDigits := (IsDigits.zeros 1).append ((IsDigits.zeros _).append h)
  value := by
    rw [digitsValue_append, digitsValue_append, digitsValue_zeros, zero_mul, zero_add,
      show digitsValue [.char '0'] = 0 from rfl, zero_mul, zero_add]
    congr 2
    rw [List.length_append, Text.length_zeros]
    omega

/-- Zeros after the digits of an integral value. -/
theorem denotes_integral {digits : List CodePoint} {k : ℤ} (h : IsDigits digits) (hk : 0 ≤ k) :
    Denotes digits k (digits ++ Text.zeros k.toNat) [.char '0'] 0 where
  isDigits := (h.append (IsDigits.zeros _)).append (IsDigits.zeros 1)
  value := by
    obtain ⟨n, rfl⟩ := Int.eq_ofNat_of_zero_le hk
    rw [digitsValue_append, digitsValue_append, digitsValue_zeros, Text.length_zeros,
      show digitsValue [.char '0'] = 0 from rfl]
    push_cast
    simp

/-- A text is read as a float whose parts denote the digits, and as far as what follows it. -/
def ReadsDigits (negative : Bool) (digits : List CodePoint) (k : ℤ) (text rest : List CodePoint) :
    Prop :=
  ∃ whole fraction e, Denotes digits k whole fraction e ∧
    readMagnitude negative (text ++ rest) = .ok (.float (readFloat negative whole fraction e), rest)

section

variable {negative : Bool} {c : CodePoint} {cs : List CodePoint} {k : ℤ} {rest : List CodePoint}

/-- Scientific notation: the point stands after the first digit, if there are others. -/
theorem readsDigits_scientific (hne : c ≠ '0') (h : IsDigits (c :: cs)) (hrest : EndsNumber rest) :
    ReadsDigits negative (c :: cs) k
      (match c :: cs with
        | [d] => d :: FloatLayout.plain.writeExponent ((c :: cs).length + k - 1)
        | d :: ds =>
            d :: .char '.' :: (ds ++ FloatLayout.plain.writeExponent ((c :: cs).length + k - 1))
        | [] => []) rest := by
  have hc : IsWhole [c] := .digits hne (h.sublist (by simp))
  cases cs with
  | nil =>
      refine ⟨[c], [], _, denotes_append h rfl ?_, readMagnitude_exponent hc _ hrest⟩
      rw [List.length_singleton, List.length_nil]
      push_cast
      ring
  | cons d ds =>
      have hds : IsDigits (d :: ds) := h.sublist (by simp)
      refine ⟨[c], d :: ds, _, denotes_append h rfl ?_,
        readMagnitude_fraction_exponent hc (List.cons_ne_nil d ds) hds _ hrest⟩
      rw [List.length_cons]
      push_cast
      ring

/-- A value below one: all digits stand after the point. -/
theorem readsDigits_small (h : IsDigits (c :: cs)) (hpoint : (c :: cs).length + k ≤ 0)
    (hrest : EndsNumber rest) :
    ReadsDigits negative (c :: cs) k
      (.char '0' :: .char '.' :: (Text.zeros (-((c :: cs).length + k)).toNat ++ c :: cs)) rest := by
  refine ⟨[.char '0'], _, 0, denotes_small h hpoint, readMagnitude_fraction .zero ?_ ?_ hrest⟩
  · exact List.append_ne_nil_of_right_ne_nil _ (List.cons_ne_nil c cs)
  · exact (IsDigits.zeros _).append h

/-- An integral value: all digits stand before the point. -/
theorem readsDigits_integral (hne : c ≠ '0') (h : IsDigits (c :: cs)) (hk : 0 ≤ k)
    (hrest : EndsNumber rest) :
    ReadsDigits negative (c :: cs) k
      (c :: cs ++ Text.zeros k.toNat ++ FloatLayout.plain.integralMark) rest := by
  have hwhole : IsWhole (c :: cs ++ Text.zeros k.toNat) :=
    .digits hne (h.append (IsDigits.zeros _))
  exact ⟨_, [.char '0'], 0, denotes_integral h hk,
    readMagnitude_fraction hwhole (List.cons_ne_nil _ _) (IsDigits.zeros 1) hrest⟩

/-- The point stands between the digits. -/
theorem readsDigits_split (hne : c ≠ '0') (h : IsDigits (c :: cs)) {point : ℕ} (hpos : 0 < point)
    (hpoint : (c :: cs).length + k = point) (hdrop : (c :: cs).drop point ≠ [])
    (hrest : EndsNumber rest) :
    ReadsDigits negative (c :: cs) k
      ((c :: cs).take point ++ .char '.' :: (c :: cs).drop point) rest := by
  have hwhole : IsWhole ((c :: cs).take point) := by
    obtain ⟨n, rfl⟩ := Nat.exists_eq_add_one.2 hpos
    rw [List.take_succ_cons]
    exact .digits hne (h.sublist (by simpa using List.take_sublist n cs))
  have hlen : point < (c :: cs).length := not_le.1 (mt List.drop_eq_nil_iff.2 hdrop)
  refine ⟨_, _, 0, denotes_append h (List.take_append_drop _ _) ?_,
    readMagnitude_fraction hwhole hdrop (h.sublist (List.drop_sublist _ _)) hrest⟩
  rw [List.length_drop]
  omega

end

/-- **Written digits are read back**, in each form that a float can take. -/
theorem readMagnitude_writeDigits (negative : Bool) {c : CodePoint} {cs : List CodePoint} (k : ℤ)
    (hne : c ≠ '0') (h : IsDigits (c :: cs)) {rest : List CodePoint} (hrest : EndsNumber rest) :
    ReadsDigits negative (c :: cs) k
      (FloatLayout.plain.writeDigits (c :: cs) ((c :: cs).length + k)) rest := by
  unfold FloatLayout.writeDigits
  dsimp only
  split_ifs with hscientific hsmall hintegral
  · exact readsDigits_scientific hne h hrest
  · exact readsDigits_small h hsmall hrest
  · have hlen : (c :: cs).length ≤ ((c :: cs).length + k).toNat :=
      List.drop_eq_nil_iff.1 (List.isEmpty_iff.1 hintegral)
    have hzeros : ((c :: cs).length + k).toNat - (c :: cs).length = k.toNat := by omega
    rw [List.take_of_length_le hlen, hzeros]
    exact readsDigits_integral hne h (by omega) hrest
  · exact readsDigits_split hne h (by omega) (by omega) (mt List.isEmpty_iff.2 hintegral) hrest

/-! ## Signs -/

theorem isDigit_of_readMagnitude {negative : Bool} {s : List CodePoint}
    {r : Number × List CodePoint}
    (h : readMagnitude negative s = .ok r) : ∀ c ∈ s.head?, c.isDigit = true := by
  unfold readMagnitude at h
  split at h
  · rintro c hc
    obtain rfl := Option.some.inj hc
    rfl
  · rintro c hc
    obtain rfl := Option.some.inj hc
    split_ifs at h with hdigit
    exact hdigit
  · cases h

theorem readNumber_of_readMagnitude {s : List CodePoint} {r : Number × List CodePoint}
    (h : readMagnitude false s = .ok r) : readNumber s = .ok r := by
  have hdigit := isDigit_of_readMagnitude h
  unfold readNumber
  split
  · exact absurd (hdigit _ rfl) (by decide)
  · exact absurd (hdigit _ rfl) (by decide)
  · exact absurd (hdigit _ rfl) (by decide)
  · exact absurd (hdigit _ rfl) (by decide)
  · exact h

theorem readNumber_minus {s : List CodePoint} {r : Number × List CodePoint}
    (h : readMagnitude true s = .ok r) : readNumber (.char '-' :: s) = .ok r := by
  have hdigit := isDigit_of_readMagnitude h
  unfold readNumber
  split
  · next heq => exact absurd (List.cons.inj heq).1 (by decide)
  · next heq => exact absurd (List.cons.inj heq).1 (by decide)
  · next heq =>
      obtain rfl := (List.cons.inj heq).2
      exact absurd (hdigit _ rfl) (by decide)
  · next heq =>
      obtain rfl := (List.cons.inj heq).2
      exact h
  · next heq => exact absurd rfl (heq _)

theorem readNumber_signed {negative : Bool} {s rest : List CodePoint} {r : Number × List CodePoint}
    (h : readMagnitude negative (s ++ rest) = .ok r) :
    readNumber ((if negative then .char '-' :: s else s) ++ rest) = .ok r := by
  cases negative
  · exact readNumber_of_readMagnitude h
  · exact readNumber_minus h

/-! ## What is written is read -/

/-- The digits of a float, without its sign, are read as the float. -/
theorem readMagnitude_shortest {x : Float} {negative : Bool} {m : ℕ} {q : ℤ} (hp : 0 < m)
    (hx : Parts.ofFloat x = .finite negative m q) {rest : List CodePoint}
    (hrest : EndsNumber rest) :
    readMagnitude negative (FloatLayout.plain.writeDigits (Text.decimal (Shortest.shortest m q).1)
        ((Text.decimal (Shortest.shortest m q).1).length + (Shortest.shortest m q).2) ++ rest) =
      .ok (.float x, rest) := by
  have hc := Parts.canonical_of_ofFloat hx
  have hn := Shortest.nearest_shortest hp hc
  generalize (Shortest.shortest m q).1 = d at hn
  generalize (Shortest.shortest m q).2 = k at hn
  have hd : 0 < d := by
    rw [Nat.pos_iff_ne_zero]
    rintro rfl
    have := hn.le_of_canonical hc hp
    rw [Nat.cast_zero, zero_mul] at this
    exact absurd this (not_le.2 (Rounding.two_zpow_pos _))
  obtain ⟨c, cs, hcons, -, hne⟩ := Text.exists_decimal_eq_cons hd
  have hdigits := IsDigits.decimal d
  have hvalue := digitsValue_decimal d
  rw [hcons] at hdigits hvalue ⊢
  obtain ⟨whole, fraction, e, hden, hread⟩ :=
    readMagnitude_writeDigits negative k hne hdigits hrest
  rw [hread]
  have hparts : Parts.ofFloat (readFloat negative whole fraction e) = .finite negative m q :=
    ofFloat_readFloat hden.isDigits (hden.pos (by omega)) hp hc (by rwa [hden.value, hvalue])
  rw [Parts.ofFloat_inj (hparts.trans hx.symm)]

/-- **A written float is read back.** -/
theorem readNumber_write (x : Float) {rest : List CodePoint} (hrest : EndsNumber rest) :
    readNumber (FloatLayout.plain.write x ++ rest) = .ok (.float x, rest) := by
  rw [FloatLayout.write]
  cases hx : Parts.ofFloat x with
  | nan =>
      rw [Parts.ofFloat_inj (hx.trans Parts.ofFloat_nan.symm)]
      rfl
  | infinite negative =>
      cases negative
      · rw [Parts.ofFloat_inj (hx.trans Parts.ofFloat_infinity.symm)]
        rfl
      · rw [Parts.ofFloat_inj (hx.trans Parts.ofFloat_neg_infinity.symm)]
        rfl
  | finite negative m q =>
      refine readNumber_signed ?_
      by_cases hm : m = 0
      · subst hm
        have hq : q = -1074 := by
          have := (Parts.canonical_of_ofFloat hx).full
          omega
        subst hq
        have hzero : Parts.ofFloat (readFloat negative [.char '0'] [.char '0'] 0) =
            .finite negative 0 (-1074) := ofFloat_readFloat_zero (by simp)
        have hread : readMagnitude negative ([.char '0'] ++ .char '.' :: [.char '0'] ++ rest) =
            .ok (.float (readFloat negative [.char '0'] [.char '0'] 0), rest) :=
          readMagnitude_fraction .zero (List.cons_ne_nil _ _) (IsDigits.zeros 1) hrest
        rw [if_pos rfl, ← Parts.ofFloat_inj (hzero.trans hx.symm)]
        exact hread
      · rw [if_neg hm]
        exact readMagnitude_shortest (Nat.pos_of_ne_zero hm) hx hrest

/-- **A written integer is read back.** -/
theorem readNumber_writeInt {n : ℤ} (hn : n.natAbs < Nat.pow 10 digitLimit) {rest : List CodePoint}
    (hrest : EndsNumber rest) :
    readNumber (writeInt n ++ rest) = .ok (.int n, rest) := by
  have hpow : ∀ k, Nat.pow 10 k = 10 ^ k := fun _ => rfl
  rw [hpow] at hn
  have hw := isWhole_decimal n.natAbs
  have hlen : (Text.decimal n.natAbs).length ≤ digitLimit :=
    (Text.length_decimal_le_iff (by decide)).2 hn
  rw [writeInt]
  split_ifs with h0
  · refine (readNumber_minus (readMagnitude_integer hw hlen hrest)).trans ?_
    rw [digitsValue_decimal, if_pos rfl]
    congr 3
    omega
  · refine (readNumber_of_readMagnitude (readMagnitude_integer hw hlen hrest)).trans ?_
    rw [digitsValue_decimal, if_neg Bool.false_ne_true]
    congr 3
    omega

end Winnow.Json
