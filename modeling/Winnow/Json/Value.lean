import Winnow.Number.Basic

/-!
# Documents

The values that documents hold and queries produce.

* `Value κ α` — a JSON value; in the course of a query the entries of its objects may have other
  keys than texts, and references to things of type `α` may stand in it.
* `Document` — a value with texts for keys and without references.
* `Entries` — the keys of an object with their values, in order, and the look-up and update of one.
-/

namespace Winnow.Json

/-- A JSON value with keys of type `κ`, in which references to things of type `α` may stand. -/
inductive Value (κ α : Type) where
  | null
  | bool (b : Bool)
  | number (n : Number)
  | text (s : Text)
  | array (items : List (Value κ α))
  | object (entries : List (κ × Value κ α))
  | reference (x : α)
  deriving Inhabited

/-- A value with texts for keys and without references. -/
abbrev Document := Value Text Empty

/-- The keys of an object with their values, in order. -/
abbrev Entries (κ α : Type) := List (κ × Value κ α)

/-- The two kinds of value that others stand in. -/
inductive Nesting where
  | array
  | object
  deriving DecidableEq, Inhabited

/-! ## Entries -/

namespace Entries

variable {κ α : Type} [BEq κ]

/-- The value at a key. -/
def get? (entries : Entries κ α) (key : κ) : Option (Value κ α) :=
  List.lookup key entries

/-- The entries with `value` at `key`: in the place of the entry there, or at the end. -/
def put : Entries κ α → κ → Value κ α → Entries κ α
  | [], key, value => [(key, value)]
  | (k, v) :: rest, key, value =>
      if k == key then (k, value) :: rest else (k, v) :: put rest key value

/-- The entries that arise when pairs are put one after the other: a repeated key keeps its first
place and its last value. -/
def ofPairs (pairs : List (κ × Value κ α)) : Entries κ α :=
  pairs.foldl (fun entries pair => put entries pair.1 pair.2) []

/-- No key has a value among no entries. -/
@[simp] theorem get?_nil (k : κ) : get? ([] : Entries κ α) k = none := rfl

/-- The value at a key stands first or among the other entries. -/
theorem get?_cons (key k : κ) (value : Value κ α) (rest : Entries κ α) :
    get? ((key, value) :: rest) k = if k == key then some value else get? rest k := by
  cases h : k == key <;> simp [get?, List.lookup_cons, h]

/-- Putting a value changes what stands at its own key and nothing else. -/
theorem get?_put [LawfulBEq κ] (entries : Entries κ α) (key k : κ) (value : Value κ α) :
    get? (put entries key value) k = if k == key then some value else get? entries k := by
  induction entries with
  | nil => simp [put, get?_cons]
  | cons entry rest ih =>
      obtain ⟨k', v'⟩ := entry
      by_cases h : k' = key
      · subst h
        simp only [put, beq_self_eq_true, if_true, get?_cons]
        split <;> rfl
      · have hf : (k' == key) = false := beq_false_of_ne h
        simp only [put, hf, Bool.false_eq_true, if_false, get?_cons, ih]
        by_cases hk : k = k'
        · subst hk
          simp [hf]
        · simp [beq_false_of_ne hk]

/-- Putting a value keeps the keys in their order; a new key comes last. -/
theorem keys_put {κ α : Type} [DecidableEq κ] (entries : Entries κ α) (key : κ)
    (value : Value κ α) :
    (put entries key value).map Prod.fst =
      if key ∈ entries.map Prod.fst then entries.map Prod.fst
      else entries.map Prod.fst ++ [key] := by
  induction entries with
  | nil => simp [put]
  | cons entry rest ih =>
      obtain ⟨k', v'⟩ := entry
      by_cases h : k' = key
      · simp [put, h]
      · simp only [put, beq_false_of_ne h, Bool.false_eq_true, if_false, List.map_cons, ih,
          List.mem_cons, Ne.symm h, false_or]
        split <;> simp

end Entries

namespace Value

variable {κ α : Type}

/-! ## Kinds -/

/-- The name of a value's kind in messages. -/
def kindName : Value κ α → Text
  | null => "NoneType"
  | bool _ => "bool"
  | number (.int _) => "int"
  | number _ => "float"
  | text _ => "str"
  | array _ => "list"
  | object _ => "dict"
  | reference _ => "_Expression"

/-- Whether a value is an array. -/
def isArray : Value κ α → Bool
  | array _ => true
  | _ => false

/-- Whether a value is null. -/
def isNull : Value κ α → Bool
  | null => true
  | _ => false

end Value

end Winnow.Json
