import Winnow.Config.Settings
import Winnow.Proofs.Config.Lookup

/-!
# The schema of a configuration

What a configuration may hold is said once, by a schema: for each entry the values it takes, whether
it may be missing, and under which key a fault is found. The settings are read by functions that
know nothing of the schema; it is what they are measured against.

* `Blame` — a fault and the full dotted key under which it is found.
* `Schema` — what an entry takes; `Schema.blame?` is the fault of the entry itself, `Schema.blames`
  has those of its parts too.
* `schema` — the schema of the program.
* `Step`, `Schema.at?`, `placeKey` — places in a configuration, with their schemas and keys.
-/

namespace Winnow.Config

/-! ## Faults -/

/-- The kinds of faults. -/
inductive Fault where
  /-- A value of a kind that the entry does not take. -/
  | kind
  /-- A value that is missing or is not allowed. -/
  | value
  /-- An entry that should not be there, and whose name has too many digits to be told. -/
  | name
  deriving DecidableEq

/-- A fault and the full dotted key under which it is found, if it can be told. -/
structure Blame where
  fault : Fault
  key : Text
  deriving DecidableEq

/-- What is to be said of a value without parts. -/
inductive Verdict where
  | fine
  | wrongKind
  | notAllowed
  | nameless
  deriving DecidableEq

/-! ## Schemas -/

/-- What is done with entries of other names than the given ones. Where they are refused, the names
are words that only texts are shown as. -/
inductive Others (names : List Text) where
  | ignored
  | refused (h : ∀ key : Key, key.isAmong names = true → ∃ s, key = .text s)

/-- What an entry takes. -/
inductive Schema where
  /-- A value without parts. One that is not allowed is blamed under its own key, or else under that
  of what holds it. -/
  | leaf (verdict : Tree → Verdict) (own : Bool)
  /-- A list, perhaps with one item or more; some values may stand for it alone. -/
  | list (alone : Tree → Bool) (inhabited : Bool) (item : Schema)
  /-- A mapping with parts of some names. -/
  | object (names : List Text) (part : Text → Schema) (others : Others names)
  /-- What may not be missing. -/
  | required (s : Schema)
  /-- What counts as missing if it is null. -/
  | nullable (s : Schema)

/-- A value at an entry where null counts as missing. -/
def dropNull : Option Tree → Option Tree
  | some .null => none
  | value => value

namespace Schema

/-- The fault of an entry itself, under the keys of what holds it and of itself. -/
def blame? (outer key : Text) : Schema → Option Tree → Option Blame
  | leaf verdict own, value => value.bind fun v =>
      match verdict v with
      | .fine => none
      | .wrongKind => some ⟨.kind, key⟩
      | .notAllowed => some ⟨.value, if own then key else outer⟩
      | .nameless => some ⟨.name, ""⟩
  | list alone inhabited _, value =>
      match value with
      | none => none
      | some (.list items) => if inhabited && items.isEmpty then some ⟨.value, key⟩ else none
      | some v => if alone v then none else some ⟨.kind, key⟩
  | object _ _ _, value =>
      match value with
      | none => none
      | some (.mapping _) => none
      | some _ => some ⟨.kind, key⟩
  | required s, value =>
      match value with
      | none => some ⟨.value, key⟩
      | some v => s.blame? outer key (some v)
  | nullable s, value => s.blame? outer key (dropNull value)

end Schema

/-! ## Places -/

/-- A step from a value to a part of it. -/
inductive Step where
  | entry (key : Key)
  | item (i : Nat)
  deriving DecidableEq

/-- A key in full, with all its digits. -/
def Key.name : Key → Text
  | number (.int n) => Text.ofList (writeInt n)
  | key => key.shown.toOption.getD ""

theorem Key.name_of_shown {key : Key} {s : Text} (h : key.shown = .ok s) : key.name = s := by
  cases key with
  | number n =>
      cases n with
      | int n =>
          rw [shown] at h
          obtain ⟨text, htext, rfl⟩ := exists_of_map_eq_ok h
          rw [Number.write] at htext
          split_ifs at htext
          rw [name, Except.ok.inj htext]
      | _ => exact Except.ok.inj h
  | _ => exact Except.ok.inj h

/-- The key of a part; the root of a configuration has the empty key. -/
def Step.key (key : Text) : Step → Text
  | entry k => if key = "" then k.name else key ++ "." ++ k.name
  | item i => itemKey key i

/-- The full dotted key of a place, with the positions in lists in brackets. -/
def placeKey (place : List Step) : Text := place.foldl Step.key ""

/-! ## All faults -/

/-- The faults of the items of a list from the position `i` on. -/
def itemBlames (blames : Text → Tree → List Blame) (key : Text) (i : Nat) :
    List Tree → List Blame
  | [] => []
  | x :: rest => blames (itemKey key i) x ++ itemBlames blames key (i + 1) rest

/-- The fault of an entry that should not be there: what holds it is blamed, if the name of the
entry can be told. -/
def Key.blame (outer : Text) (key : Key) : Blame :=
  match key.shown with
  | .ok _ => ⟨.value, outer⟩
  | .error _ => ⟨.name, ""⟩

/-- The faults of entries of other names. -/
def Others.blames {names : List Text} (others : Others names) (key : Text) (entries : Mapping) :
    List Blame :=
  match others with
  | ignored => []
  | refused _ =>
      (entries.filter fun entry => !entry.1.isAmong names).map fun entry => entry.1.blame key

theorem Others.mem_blames_refused {names : List Text}
    {h : ∀ key : Key, key.isAmong names = true → ∃ s, key = .text s} {key : Text}
    {entries : Mapping} {b : Blame} :
    b ∈ (refused h).blames key entries ↔
      ∃ k ∈ entries.map Prod.fst, k.isAmong names = false ∧ k.blame key = b := by
  simp [blames, and_assoc]

theorem Others.blames_refused_eq_nil {names : List Text}
    {h : ∀ key : Key, key.isAmong names = true → ∃ s, key = .text s} {key : Text}
    {entries : Mapping} :
    (refused h).blames key entries = [] ↔
      ∀ k ∈ entries.map Prod.fst, k.isAmong names = true := by
  simp [blames, List.filter_eq_nil_iff]

namespace Schema

/-- The faults of an entry and of its parts. -/
def blames : Schema → Text → Text → Option Tree → List Blame
  | leaf verdict own, outer, key, value => ((leaf verdict own).blame? outer key value).toList
  | list alone inhabited item, outer, key, value =>
      ((list alone inhabited item).blame? outer key value).toList ++
        match value with
        | some (.list items) => itemBlames (fun k x => item.blames key k (some x)) key 0 items
        | _ => []
  | object names part others, outer, key, value =>
      ((object names part others).blame? outer key value).toList ++
        match value with
        | some (.mapping entries) =>
            others.blames key entries ++ names.flatMap fun name =>
              (part name).blames key (Step.key key (.entry (.text name)))
                (Mapping.get? entries name)
        | _ => []
  | required s, outer, key, value =>
      match value with
      | none => [⟨.value, key⟩]
      | some v => s.blames outer key (some v)
  | nullable s, outer, key, value => s.blames outer key (dropNull value)

/-! ## Common schemas -/

/-- A text of the allowed ones. -/
def text (allowed : Text → Bool) : Schema :=
  leaf (fun
    | .text s => if allowed s then .fine else .notAllowed
    | _ => .wrongKind) true

/-- A text of the allowed ones, where what holds it is blamed for another one. -/
def word (allowed : Text → Bool) : Schema :=
  leaf (fun
    | .text s => if allowed s then .fine else .notAllowed
    | _ => .wrongKind) false

/-- A boolean. -/
def boolean : Schema :=
  leaf (fun
    | .bool _ => .fine
    | _ => .wrongKind) true

/-- An integer of the allowed ones; a boolean is none. -/
def integer (allowed : Int → Bool) : Schema :=
  leaf (fun
    | .number (.int n) => if allowed n then .fine else .notAllowed
    | _ => .wrongKind) true

/-- A value without parts, which may be null. -/
def scalar : Schema :=
  leaf (fun
    | .moment _ => .wrongKind
    | .list _ => .wrongKind
    | .mapping _ => .wrongKind
    | _ => .fine) true

/-- A path: a list of texts; a text or null may stand for it. -/
def path : Schema :=
  list (fun
    | .text _ => true
    | .null => true
    | _ => false) false (text fun _ => true)

/-- What is never read. -/
def anything : Schema := leaf (fun _ => .fine) true

/-- What may not be there; what would hold it is blamed. -/
def nothing : Schema := leaf (fun _ => .notAllowed) false

/-- What may not be there and has no name that could be told. -/
def nameless : Schema := leaf (fun _ => .nameless) false

section

variable {outer key : Text}

theorem blames_text (allowed : Text → Bool) (s : Text) :
    (text allowed).blames outer key (some (.text s)) =
      if allowed s = true then [] else [⟨.value, key⟩] := by
  cases h : allowed s <;> simp [text, blames, blame?, h]

theorem blames_word (allowed : Text → Bool) (s : Text) :
    (word allowed).blames outer key (some (.text s)) =
      if allowed s = true then [] else [⟨.value, outer⟩] := by
  cases h : allowed s <;> simp [word, blames, blame?, h]

theorem blames_integer (allowed : Int → Bool) (n : Int) :
    (integer allowed).blames outer key (some (.number (.int n))) =
      if allowed n = true then [] else [⟨.value, key⟩] := by
  cases h : allowed n <;> simp [integer, blames, blame?, h]

theorem blames_list (alone : Tree → Bool) (inhabited : Bool) (item : Schema) (items : List Tree) :
    (list alone inhabited item).blames outer key (some (.list items)) =
      (if (inhabited && items.isEmpty) = true then [⟨.value, key⟩] else []) ++
        itemBlames (fun k x => item.blames key k (some x)) key 0 items := by
  simp only [blames, blame?]
  split_ifs <;> rfl

theorem blames_object (names : List Text) (part : Text → Schema) (others : Others names)
    (entries : Mapping) :
    (object names part others).blames outer key (some (.mapping entries)) =
      others.blames key entries ++ names.flatMap fun name =>
        (part name).blames key (Step.key key (.entry (.text name)))
          (Mapping.get? entries name) := rfl

theorem blames_anything (value : Option Tree) : anything.blames outer key value = [] := by
  cases value <;> rfl

end

end Schema

/-! ## The schema of the program -/

open Schema

/-- A filter. -/
def filterSchema : Schema :=
  .object ["relation", "path", "value"] (fun name =>
    if name = "relation" then .required (text (· ∈ relations))
    else if name = "path" then path
    else .required scalar) .ignored

/-- A sort. -/
def sortSchema : Schema :=
  .object ["direction", "path"] (fun name =>
    if name = "direction" then text fun s => Text.lower (Text.trim s) ∈ directions
    else path) .ignored

/-- A projection. -/
def projectionSchema : Schema :=
  .object ["paths"] (fun _ => .required (.list (fun _ => false) true path)) .ignored

theorem exists_text_of_stageName (key : Key) (h : key.isAmong stageNames = true) :
    ∃ s, key = .text s := by
  have hall : ∀ name ∈ stageNames, .char 'r' ∈ name.toList ∧ name ≠ "True" := by decide
  obtain ⟨name, hmem, hname⟩ := Key.isAmong_iff.1 h
  exact Key.exists_text_of_shown hname (hall name hmem).1 (hall name hmem).2

/-- A specification. -/
def specSchema : Schema :=
  .object stageNames (fun name =>
    if name = "filter" then .nullable filterSchema
    else if name = "sort" then .nullable sortSchema
    else .nullable projectionSchema) (.refused exists_text_of_stageName)

/-- The log settings. -/
def logSchema : Schema :=
  .object ["level", "to_file", "dir"] (fun name =>
    if name = "level" then text fun s => (Level.ofName? (Text.upper s)).isSome
    else if name = "to_file" then boolean
    else text fun s => !Text.isAllBlank s) .ignored

/-- The query settings. -/
def querySchema : Schema :=
  .object ["language", "data", "spec"] (fun name =>
    if name = "language" then text fun s => Text.lower (Text.trim s) ∈ Language.ids
    else if name = "data" then .nullable (text fun s => !Text.isAllBlank s)
    else .nullable specSchema) .ignored

/-- The output settings. -/
def outputSchema : Schema :=
  .object ["base_dir", "formats", "indent"] (fun name =>
    if name = "base_dir" then text fun s => !Text.isAllBlank s
    else if name = "formats" then
      .list (fun _ => false) true (word fun s => (Format.ofName? (Text.lower (Text.trim s))).isSome)
    else integer fun n => 0 ≤ n) .ignored

/-- **The schema of a configuration.** -/
def schema : Schema :=
  .object ["log", "query", "output"] (fun name =>
    if name = "log" then .nullable logSchema
    else if name = "query" then .nullable (.required querySchema)
    else .nullable outputSchema) .ignored

/-! ## Schemas of places -/

/-- The schema of an entry of another name. -/
def Others.schema {names : List Text} (others : Others names) (key : Key) : Schema :=
  match others, key.shown with
  | ignored, _ => anything
  | refused _, .ok _ => nothing
  | refused _, .error _ => nameless

namespace Schema

/-- The schema of a part. -/
def sub? : Schema → Step → Option Schema
  | leaf _ _, _ => none
  | list _ _ item, step =>
      match step with
      | .item _ => some item
      | .entry _ => none
  | object names part others, step =>
      match step with
      | .item _ => none
      | .entry key =>
          match names.find? fun name => key = .text name with
          | some name => some (part name)
          | none => some (others.schema key)
  | required s, step => s.sub? step
  | nullable s, step => s.sub? step

/-- The schema of a place. -/
def at? : Schema → List Step → Option Schema
  | s, [] => some s
  | s, step :: place => (s.sub? step).bind (·.at? place)

example :
    let place := [Step.entry (.text "query"), .entry (.text "spec"), .entry (.text "projection"),
      .entry (.text "paths"), .item 2]
    schema.at? place = some path ∧ placeKey place = "query.spec.projection.paths[2]" :=
  ⟨rfl, rfl⟩

end Schema

end Winnow.Config
