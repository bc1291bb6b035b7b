import Winnow.Proofs.Config.Null

/-!
# Damage to one entry of a configuration

A configuration that is accepted, with another value at one place, is accepted again exactly if the
schema finds no fault in that value; else the error tells such a fault and names its key.

* `blames_of_blame?` — where an entry itself is at fault, this is its only fault.
* `judged_of_changed` — a changed configuration is judged by the changed value.
* `exists_ok_of_changed_iff` — which changes are accepted.
* `single_fault_reported` — an entry that is damaged is reported at its own key.
-/

namespace Winnow.Config

variable {root : Mapping} {settings : Settings} {place : List Step} {entry : Schema}
  {new : Option Tree} {changed : Mapping}

/-! ## Faults without a name -/

/-- Whether every fault is found under a key that can be told. -/
def Schema.Tells : Schema → Prop
  | leaf verdict _ => ∀ v, verdict v ≠ .nameless
  | list _ _ item => item.Tells
  | object names part _ => ∀ name ∈ names, (part name).Tells
  | required s => s.Tells
  | nullable s => s.Tells

/-- The last step of a place leads to an entry whose key has too many digits. -/
def EndsNameless (place : List Step) : Prop :=
  ∃ key cause, place.getLast? = some (.entry key) ∧ key.shown = .error cause

theorem Schema.Tells.fault_ne {s : Schema} (h : s.Tells) {outer key : Text} {value : Option Tree}
    {b : Blame} (hb : s.blame? outer key value = some b) : b.fault ≠ .name := by
  induction s generalizing value with
  | leaf verdict own =>
      obtain ⟨v, -, hb⟩ := Option.bind_eq_some_iff.1 hb
      have hv := h v
      split at hb
      · cases hb
      · cases hb
        rintro ⟨⟩
      · cases hb
        rintro ⟨⟩
      · next hverdict => exact absurd hverdict hv
  | list alone inhabited item ih =>
      simp only [blame?] at hb
      split at hb
      · cases hb
      · split_ifs at hb
        cases hb
        rintro ⟨⟩
      · split_ifs at hb
        cases hb
        rintro ⟨⟩
  | object names part others ih =>
      simp only [blame?] at hb
      split at hb <;> cases hb
      rintro ⟨⟩
  | required s ih =>
      simp only [blame?] at hb
      split at hb
      · cases hb
        rintro ⟨⟩
      · exact ih h hb
  | nullable s ih => exact ih h hb

/-- One step leads to what tells its faults, or to an entry whose key has too many digits. -/
theorem Schema.Tells.sub? {s t : Schema} (h : s.Tells) {step : Step} (hsub : s.sub? step = some t) :
    t.Tells ∨ t = .nameless ∧ ∃ key cause, step = .entry key ∧ key.shown = .error cause := by
  induction s with
  | leaf verdict own => cases hsub
  | required s ih => exact ih h hsub
  | nullable s ih => exact ih h hsub
  | list alone inhabited item ih =>
      cases step with
      | entry key => cases hsub
      | item i => exact .inl (Option.some.inj hsub ▸ h)
  | object names part others ih =>
      cases step with
      | item i => cases hsub
      | entry key =>
          simp only [Schema.sub?] at hsub
          split at hsub
          · next name hfind =>
              obtain rfl := Option.some.inj hsub
              exact .inl (h name (List.mem_of_find?_eq_some hfind))
          · obtain rfl := Option.some.inj hsub
            unfold Others.schema
            split
            · exact .inl fun _ h => by cases h
            · exact .inl fun _ h => by cases h
            · next cause hshown => exact .inr ⟨rfl, key, cause, rfl, hshown⟩

/-- An entry whose key has too many digits is not read, or it should not be there. -/
theorem Schema.sub?_nameless {s t : Schema} {key : Key} {cause : TooLong}
    (hkey : key.shown = .error cause) (hsub : s.sub? (.entry key) = some t) :
    t = .anything ∨ t = .nameless := by
  induction s with
  | leaf verdict own => cases hsub
  | list alone inhabited item ih => cases hsub
  | required s ih => exact ih hsub
  | nullable s ih => exact ih hsub
  | object names part others ih =>
      simp only [Schema.sub?] at hsub
      split at hsub
      · next name hfind =>
          obtain rfl : key = .text name := by simpa using List.find?_some hfind
          cases hkey
      · obtain rfl := Option.some.inj hsub
        unfold Others.schema
        split
        · exact .inl rfl
        · next name hshown => cases hkey.symm.trans hshown
        · exact .inr rfl

/-- It should not be there in a specification. -/
theorem sub?_specSchema_nameless {key : Key} {cause : TooLong} (h : key.shown = .error cause) :
    specSchema.sub? (.entry key) = some .nameless := by
  have hne : ∀ name, key ≠ .text name := by
    rintro name rfl
    cases h
  simp [specSchema, stageNames, Schema.sub?, hne, Others.schema, h]

theorem schema_at?_nameless {key : Key} {cause : TooLong} (h : key.shown = .error cause) :
    schema.at? [.entry (.text "query"), .entry (.text "spec"), .entry key] = some .nameless := by
  change (specSchema.sub? (.entry key)).bind (·.at? []) = _
  rw [sub?_specSchema_nameless h]
  rfl

/-- **The faults without a name** are those of entries whose keys have too many digits. -/
theorem Schema.Tells.fault_eq_name_iff {s t : Schema} (h : s.Tells) {place : List Step}
    (hat : s.at? place = some t) {outer key : Text} {value : Option Tree} {b : Blame}
    (hb : t.blame? outer key value = some b) : b.fault = .name ↔ EndsNameless place := by
  induction place generalizing s with
  | nil =>
      obtain rfl := Option.some.inj hat
      refine iff_of_false (h.fault_ne hb) ?_
      rintro ⟨_, _, hlast, -⟩
      cases hlast
  | cons step place ih =>
      obtain ⟨part, hsub, hat⟩ := Option.bind_eq_some_iff.1 hat
      cases place with
      | cons next place =>
          have hends : EndsNameless (step :: next :: place) ↔ EndsNameless (next :: place) := by
            simp only [EndsNameless, List.getLast?_cons_cons]
          rw [hends]
          rcases h.sub? hsub with hpart | ⟨rfl, -⟩
          · exact ih hpart hat
          · cases hat
      | nil =>
          obtain rfl := Option.some.inj hat
          constructor
          · intro hname
            rcases h.sub? hsub with hpart | ⟨-, k, cause, rfl, hk⟩
            · exact absurd hname (hpart.fault_ne hb)
            · exact ⟨k, cause, rfl, hk⟩
          · rintro ⟨k, cause, hlast, hk⟩
            obtain rfl := Option.some.inj hlast
            rcases sub?_nameless hk hsub with rfl | rfl
            · cases value <;> cases hb
            · cases value <;> cases hb
              rfl

theorem Schema.tells_text (allowed : Text → Bool) : (text allowed).Tells := by
  intro v
  cases v with
  | text s => cases h : allowed s <;> simp [h]
  | _ => simp

theorem Schema.tells_word (allowed : Text → Bool) : (word allowed).Tells := tells_text allowed

theorem Schema.tells_integer (allowed : ℤ → Bool) : (integer allowed).Tells := by
  intro v
  cases v with
  | number n =>
      cases n with
      | int n => cases h : allowed n <;> simp [h]
      | _ => simp
  | _ => simp

theorem Schema.tells_boolean : boolean.Tells := by
  intro v
  cases v <;> simp

theorem Schema.tells_scalar : scalar.Tells := by
  intro v
  cases v <;> simp

theorem Schema.tells_path : path.Tells := tells_text _

/-- In the schema of the program only stages of other names have faults without a name. -/
theorem schema_tells : schema.Tells := by
  have hfilter : filterSchema.Tells := by
    simp +decide [filterSchema, Schema.Tells, Schema.tells_text, Schema.tells_path,
      Schema.tells_scalar]
  have hsort : sortSchema.Tells := by
    simp +decide [sortSchema, Schema.Tells, Schema.tells_text, Schema.tells_path]
  have hprojection : projectionSchema.Tells := by
    simp [projectionSchema, Schema.Tells, Schema.tells_path]
  have hspec : specSchema.Tells := by
    simp +decide [specSchema, stageNames, Schema.Tells, hfilter, hsort, hprojection]
  have hlog : logSchema.Tells := by
    simp +decide [logSchema, Schema.Tells, Schema.tells_text, Schema.tells_boolean]
  have hquery : querySchema.Tells := by
    simp +decide [querySchema, Schema.Tells, Schema.tells_text, hspec]
  have houtput : outputSchema.Tells := by
    simp +decide [outputSchema, Schema.Tells, Schema.tells_text, Schema.tells_word,
      Schema.tells_integer]
  simp +decide [schema, Schema.Tells, hlog, hquery, houtput]

/-! ## Damage -/

/-- An entry that is itself at fault has no parts that are. -/
theorem blames_of_blame? {s : Schema} {outer key : Text} {value : Option Tree} {b : Blame}
    (h : s.blame? outer key value = some b) : s.blames outer key value = [b] := by
  induction s generalizing value with
  | leaf verdict own => rw [Schema.blames, h, Option.toList_some]
  | list alone inhabited item ih =>
      cases value with
      | none => cases h
      | some v =>
          cases v with
          | list items =>
              cases items with
              | nil => simp only [Schema.blames, h, itemBlames, Option.toList_some, List.append_nil]
              | cons x items => simp [Schema.blame?] at h
          | _ => simp only [Schema.blames, h, Option.toList_some, List.append_nil]
  | object names part others ih =>
      cases value with
      | none => cases h
      | some v =>
          cases v with
          | mapping entries => cases h
          | _ => simp only [Schema.blames, h, Option.toList_some, List.append_nil]
  | required s ih =>
      cases value with
      | none => rw [← Option.some.inj h, Schema.blames]
      | some v => exact ih h
  | nullable s ih => exact ih h

theorem blames_of_ofMapping (h : Settings.ofMapping root = .ok settings) :
    schema.blames "" "" (some (.mapping root)) = [] := by
  have hroot := judged_ofMapping root
  rw [h] at hroot
  cases hroot with
  | ok hroot => exact hroot

/-- A changed configuration is judged by the changed value, under the keys of its place. -/
theorem judged_of_changed (h : Settings.ofMapping root = .ok settings)
    (hentry : schema.at? place = some entry)
    (hchanged : Changed new place (some (.mapping root)) (some (.mapping changed))) :
    Judged (entry.blames (placeKey place.dropLast) (placeKey place) new)
      (Settings.ofMapping changed) := by
  have hkeys : keysFrom "" "" place = (placeKey place.dropLast, placeKey place) := by
    rw [keysFrom_eq]
    split_ifs with hplace
    · rw [hplace]
      rfl
    · rfl
  have hmem : ∀ b, b ∈ schema.blames "" "" (some (.mapping changed)) ↔
      b ∈ entry.blames (placeKey place.dropLast) (placeKey place) new := by
    intro b
    rw [mem_blames_of_changed hchanged hentry (blames_of_ofMapping h), hkeys]
  refine (judged_ofMapping changed).imp (fun b hb => (hmem b).1 hb) fun _ hnone => ?_
  rw [List.eq_nil_iff_forall_not_mem]
  intro b hb
  rw [← hmem, hnone] at hb
  exact List.not_mem_nil hb

/-- **The changes that are accepted** are those without a fault at their place. -/
theorem exists_ok_of_changed_iff (h : Settings.ofMapping root = .ok settings)
    (hentry : schema.at? place = some entry)
    (hchanged : Changed new place (some (.mapping root)) (some (.mapping changed))) :
    (∃ settings', Settings.ofMapping changed = .ok settings') ↔
      entry.blames (placeKey place.dropLast) (placeKey place) new = [] := by
  have hjudged := judged_of_changed h hentry hchanged
  generalize Settings.ofMapping changed = outcome at hjudged
  cases hjudged with
  | ok hnone => exact ⟨fun _ => hnone, fun _ => ⟨_, rfl⟩⟩
  | error he =>
      constructor
      · rintro ⟨_, hok⟩
        cases hok
      · intro hnone
        rw [hnone] at he
        exact absurd he List.not_mem_nil

/-- **A single fault is reported at its own key, if it can be told.** Of a configuration that is
accepted, one entry is damaged and all else is left as it is. Then the error is of the kind of the
fault, and it names the full dotted key of the entry, or of what holds it where the schema says so;
what is said of it contains that key. Only if a stage is added whose name has too many digits,
nothing is said but that. Where null counts as missing, a configuration with null is read like one
without the entry. -/
theorem single_fault_reported (h : Settings.ofMapping root = .ok settings)
    (hentry : schema.at? place = some entry) :
    (∀ new changed b, Changed new place (some (.mapping root)) (some (.mapping changed)) →
      entry.blame? (placeKey place.dropLast) (placeKey place) new = some b →
      ∃ e, Settings.ofMapping changed = .error e ∧ e.blame = b ∧
        (¬EndsNameless place →
          b.fault ≠ .name ∧ ∃ before after, e.message = before ++ b.key ++ after) ∧
        (EndsNameless place → ∃ cause, e = .unnamedStage cause ∧ e.message = cause.message)) ∧
    (∀ nulled missing, entry.takesNull = true →
      Changed (some .null) place (some (.mapping root)) (some (.mapping nulled)) →
      Changed none place (some (.mapping root)) (some (.mapping missing)) →
      Settings.ofMapping nulled = Settings.ofMapping missing) := by
  constructor
  · intro new changed b hchanged hb
    have hjudged := judged_of_changed h hentry hchanged
    rw [blames_of_blame? hb] at hjudged
    generalize Settings.ofMapping changed = outcome at hjudged
    cases hjudged with
    | ok hnone => cases hnone
    | @error e he =>
        obtain rfl := List.mem_singleton.1 he
        have hname := schema_tells.fault_eq_name_iff hentry hb
        refine ⟨e, rfl, rfl, fun hplace => ⟨mt hname.1 hplace, e.exists_message_eq⟩,
          fun hplace => ?_⟩
        exact e.eq_unnamedStage_of_blame (hname.2 hplace)
  · intro nulled missing hnull hnulled hmissing
    exact ofMapping_alike (alike_of_changed hnulled hmissing hentry hnull (blames_of_ofMapping h))

/-- A configuration with a path to the data, a projection, and other stages. -/
def sampleRoot (data : List (Key × Tree)) (segment : Tree) (others : Mapping) : Mapping :=
  [(.text "query", .mapping (data ++ [(.text "spec", .mapping ((.text "projection",
    .mapping [(.text "paths", .list [.text "a", .list [.text "b", segment]])]) :: others))]))]

/-- The second segment of the second path of the projection becomes a number; a stage is added under
a number of too many digits; the path to the data becomes null. -/
theorem single_fault_reported_sample :
    let data : List (Key × Tree) := [(.text "data", .text "d.json")]
    let root := sampleRoot data (.text "c") []
    let stage : Key := .number (.int (Nat.pow 10 digitLimit))
    Settings.ofMapping root = .ok {
      log := {}
      query := {
        language := "jmespath"
        dataPath := some "d.json"
        spec := { projection := some ⟨[["a"], ["b", "c"]]⟩ } }
      output := {} } ∧
    (∃ e, Settings.ofMapping (sampleRoot data (.number (.int 7)) []) = .error e ∧
      e.blame = ⟨.kind, "query.spec.projection.paths[1][1]"⟩ ∧
      ∃ before after, e.message = before ++ "query.spec.projection.paths[1][1]" ++ after) ∧
    (∃ e cause, Settings.ofMapping (sampleRoot data (.text "c") [(stage, .null)]) = .error e ∧
      e = .unnamedStage cause ∧ e.message = cause.message) ∧
    Settings.ofMapping (sampleRoot [(.text "data", .null)] (.text "c") []) =
      Settings.ofMapping (sampleRoot [] (.text "c") []) := by
  intro data root stage
  have hroot : Settings.ofMapping root = .ok {
      log := {}
      query := {
        language := "jmespath"
        dataPath := some "d.json"
        spec := { projection := some ⟨[["a"], ["b", "c"]]⟩ } }
      output := {} } := rfl
  have hsegment : Changed (some (.number (.int 7)))
      [.entry (.text "query"), .entry (.text "spec"), .entry (.text "projection"),
        .entry (.text "paths"), .item 1, .item 1]
      (some (.mapping root))
      (some (.mapping (sampleRoot data (.number (.int 7)) []))) := by
    have hitem : Changed (some (.number (.int 7))) [.item 1, .item 1]
        (some (.list [.text "a", .list [.text "b", .text "c"]]))
        (some (.list [.text "a", .list [.text "b", .number (.int 7)]])) :=
      .item rfl (.item rfl (.here _))
    exact .within rfl (.within rfl (.within rfl (.within rfl hitem rfl) rfl) rfl) rfl
  have hdata : ∀ new, Changed new [.entry (.text "query"), .entry (.text "data")]
      (some (.mapping root))
      (some (.mapping (sampleRoot (Mapping.set data (.text "data") new) (.text "c") []))) := by
    intro new
    refine .within rfl (.entry (.here _)) ?_
    cases new <;> rfl
  have hlong : stage.shown = .error ⟨none⟩ := by
    have hwrite : (Number.int (Nat.pow 10 digitLimit)).write = .error ⟨none⟩ := by
      rw [Number.write, Int.natAbs_natCast, if_neg (lt_irrefl _)]
    change (Number.int (Nat.pow 10 digitLimit)).write.map Text.ofList = _
    rw [hwrite]
    rfl
  have hstage : Changed (some .null) [.entry (.text "query"), .entry (.text "spec"), .entry stage]
      (some (.mapping root)) (some (.mapping (sampleRoot data (.text "c") [(stage, .null)]))) :=
    .within rfl (.within rfl (.entry (.here _)) rfl) rfl
  refine ⟨hroot, ?_, ?_, ?_⟩
  · obtain ⟨e, he, hblame, htold, -⟩ := (single_fault_reported hroot rfl).1 _ _ _ hsegment rfl
    refine ⟨e, he, hblame, (htold ?_).2⟩
    rintro ⟨_, _, hlast, -⟩
    cases hlast
  · obtain ⟨e, he, -, -, hnameless⟩ :=
      (single_fault_reported hroot (schema_at?_nameless hlong)).1 _ _ _ hstage rfl
    obtain ⟨cause, rfl, hmessage⟩ := hnameless ⟨stage, _, rfl, hlong⟩
    exact ⟨_, cause, he, rfl, hmessage⟩
  · exact (single_fault_reported hroot rfl).2 _ _ rfl (hdata (some .null)) (hdata none)

end Winnow.Config
