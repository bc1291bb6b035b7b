/-!
# Computations that may fail

* `ok_bind`, `error_bind` — a computation in two parts goes on if the first part succeeds.
* `exists_of_bind_eq_ok`, `bind_eq_ok_iff` — a computation in two parts succeeds if both parts do.
* `exists_bind_ok_iff`, `exists_error_iff` — the same where the value does not matter.
* `exists_of_check_eq_ok`, `check_eq_ok_iff` — a check passes if it is met.
* `eq_ok_of_mapError_eq_ok` — another name for the errors does not change what succeeds.
* `SameOutcome` — computations that both fail by one error, or both succeed with related values.
-/

namespace Winnow

theorem ok_bind {ε α β : Type} (a : α) (f : α → Except ε β) : (Except.ok a >>= f) = f a := rfl

theorem error_bind {ε α β : Type} (e : ε) (f : α → Except ε β) :
    (Except.error e >>= f) = .error e := rfl

theorem exists_of_bind_eq_ok {ε α β : Type} {x : Except ε α} {f : α → Except ε β} {b : β}
    (h : (x >>= f) = .ok b) : ∃ a, x = .ok a ∧ f a = .ok b := by
  cases x with
  | error e => cases h
  | ok a => exact ⟨a, rfl, h⟩

theorem bind_eq_ok_iff {ε α β : Type} {x : Except ε α} {f : α → Except ε β} {b : β} :
    (x >>= f) = .ok b ↔ ∃ a, x = .ok a ∧ f a = .ok b := by
  refine ⟨exists_of_bind_eq_ok, ?_⟩
  rintro ⟨a, rfl, h⟩
  exact h

/-- A computation in two parts succeeds if the first part does and then the second. -/
theorem exists_bind_ok_iff {ε α β : Type} {x : Except ε α} {f : α → Except ε β} :
    (∃ b, (x >>= f) = .ok b) ↔ ∃ a, x = .ok a ∧ ∃ b, f a = .ok b := by
  constructor
  · rintro ⟨b, h⟩
    obtain ⟨a, ha, hb⟩ := exists_of_bind_eq_ok h
    exact ⟨a, ha, b, hb⟩
  · rintro ⟨a, rfl, b, hb⟩
    exact ⟨b, hb⟩

/-- A computation fails unless it succeeds. -/
theorem exists_error_iff {ε α : Type} {x : Except ε α} :
    (∃ e, x = .error e) ↔ ¬∃ a, x = .ok a := by
  cases x <;> simp

theorem exists_mapError_ok_iff {ε ε' α : Type} {x : Except ε α} {f : ε → ε'} :
    (∃ a, x.mapError f = .ok a) ↔ ∃ a, x = .ok a := by
  cases x with
  | ok a => exact ⟨fun _ => ⟨a, rfl⟩, fun _ => ⟨a, rfl⟩⟩
  | error e =>
    constructor
    · rintro ⟨a, h⟩
      cases h
    · rintro ⟨a, h⟩
      cases h

/-- A check throws unless it is met. -/
theorem exists_of_check_eq_ok {ε α β : Type} {p : Prop} [Decidable p] {e : ε}
    {k : α → Except ε β} {r : Except ε β} {b : β}
    (h : (if p then (throw e : Except ε α) >>= k else r) = .ok b) : ¬p ∧ r = .ok b := by
  by_cases hp : p
  · rw [if_pos hp] at h
    cases h
  · rw [if_neg hp] at h
    exact ⟨hp, h⟩

theorem check_eq_ok_iff {ε α β : Type} {p : Prop} [Decidable p] {e : ε}
    {k : α → Except ε β} {r : Except ε β} {b : β} :
    (if p then (throw e : Except ε α) >>= k else r) = .ok b ↔ ¬p ∧ r = .ok b := by
  refine ⟨exists_of_check_eq_ok, ?_⟩
  rintro ⟨hp, rfl⟩
  exact if_neg hp

theorem eq_ok_of_mapError_eq_ok {ε ε' α : Type} {x : Except ε α} {f : ε → ε'} {a : α}
    (h : x.mapError f = .ok a) : x = .ok a := by
  cases x with
  | error e => cases h
  | ok a' => exact congrArg _ (Except.ok.inj h)

theorem exists_of_map_eq_ok {ε α β : Type} {x : Except ε α} {f : α → β} {b : β}
    (h : x.map f = .ok b) : ∃ a, x = .ok a ∧ f a = b := by
  cases x with
  | error e => cases h
  | ok a => exact ⟨a, rfl, Except.ok.inj h⟩

/-- Two computations fail by the same error, or both succeed and their values are related. -/
inductive SameOutcome {ε α β : Type} (r : α → β → Prop) : Except ε α → Except ε β → Prop
  | ok {a : α} {b : β} (h : r a b) : SameOutcome r (.ok a) (.ok b)
  | error (e : ε) : SameOutcome r (.error e) (.error e)

theorem SameOutcome.refl {ε α : Type} {r : α → α → Prop} (h : ∀ a, r a a) (x : Except ε α) :
    SameOutcome r x x := by
  cases x with
  | error e => exact .error e
  | ok a => exact .ok (h a)

theorem SameOutcome.cases_eq {ε α β : Type} {r : α → β → Prop} {x : Except ε α} {y : Except ε β}
    (h : SameOutcome r x y) :
    (∃ a b, x = .ok a ∧ y = .ok b ∧ r a b) ∨ ∃ e, x = .error e ∧ y = .error e := by
  cases h with
  | ok h => exact .inl ⟨_, _, rfl, rfl, h⟩
  | error e => exact .inr ⟨e, rfl, rfl⟩

end Winnow
