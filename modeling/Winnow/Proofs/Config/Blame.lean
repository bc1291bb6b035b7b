import Winnow.Proofs.Config.ReadSpec
import Winnow.Proofs.Config.Schema

/-!
# Reading settings and the schema

The functions that read settings fail by a fault that the schema finds, and where they succeed it
finds none.

* `SettingError.blame` — the fault that an error tells.
* `SettingError.exists_message_eq` — what is said of an error contains the key that it names.
* `Judged` — a reading that fails by one of the faults, or succeeds if there are none; `Reads` — one
  of which a condition holds if it succeeds.
* `judged_readFilter`, `judged_readSort`, `judged_readProjection`, `judged_readSpec` —
  specifications.
* `Draft.blames` — the faults that are found once all sections are read; `reads_draft`,
  `judged_checkLog`, `judged_checkQuery`, `judged_checkOutput` — the two phases.
* `judged_ofMapping` — the settings are judged by the schema.
-/

namespace Winnow.Config

open Schema (text word boolean integer scalar path)

/-! ## Errors -/

/-- The fault that an error tells, with the key that it names. -/
def SettingError.blame : SettingError → Blame
  | noMapping => ⟨.value, ""⟩
  | missing key => ⟨.value, key⟩
  | wrongKind key _ => ⟨.kind, key⟩
  | notOneOf key _ => ⟨.value, key⟩
  | unknownStages key _ => ⟨.value, key⟩
  | unnamedStage _ => ⟨.name, ""⟩
  | noPaths key => ⟨.value, key ++ ".paths"⟩
  | unknownLanguage _ => ⟨.value, "query.language"⟩
  | blank key => ⟨.value, key⟩
  | noFormats => ⟨.value, "output.formats"⟩
  | unknownFormats _ => ⟨.value, "output.formats"⟩
  | negativeIndent => ⟨.value, "output.indent"⟩

theorem exists_append_of_start {message key : Text} (rest : Text) (h : message = key ++ rest) :
    ∃ before after, message = before ++ key ++ after :=
  ⟨"", rest, by rw [h, Text.empty_append]⟩

/-- What is said of an error contains the key that it names, if it names one. -/
theorem SettingError.exists_message_eq (e : SettingError) :
    ∃ before after, e.message = before ++ e.blame.key ++ after := by
  cases e with
  | noMapping => exact exists_append_of_start _ (Text.empty_append _).symm
  | missing key =>
      refine ⟨"Missing required config: ", "", ?_⟩
      rw [Text.append_empty]
      rfl
  | wrongKind key wanted => exact exists_append_of_start _ (Text.append_assoc ..)
  | notOneOf key allowed => exact exists_append_of_start _ (Text.append_assoc ..)
  | unknownStages key names => exact exists_append_of_start _ (Text.append_assoc ..)
  | unnamedStage cause => exact exists_append_of_start cause.message (Text.empty_append _).symm
  | noPaths key =>
      refine exists_append_of_start " must include at least one path" ?_
      change key ++ ".paths must include at least one path" = key ++ ".paths" ++ _
      rw [Text.append_assoc]
      rfl
  | unknownLanguage id =>
      refine exists_append_of_start (" has unknown language: " ++ id) ?_
      change "query.language has unknown language: " ++ id = "query.language" ++ _
      rw [← Text.append_assoc]
      rfl
  | blank key => exact exists_append_of_start _ rfl
  | noFormats => exact exists_append_of_start " must include at least one format" rfl
  | unknownFormats names =>
      refine exists_append_of_start (" has unknown formats: " ++ Text.quoteList names) ?_
      change "output.formats has unknown formats: " ++ Text.quoteList names = "output.formats" ++ _
      rw [← Text.append_assoc]
      rfl
  | negativeIndent => exact exists_append_of_start " must not be negative" rfl

/-- Only the name of a stage cannot be told. -/
theorem SettingError.eq_unnamedStage_of_blame (e : SettingError) (h : e.blame.fault = .name) :
    ∃ cause, e = .unnamedStage cause ∧ e.message = cause.message := by
  cases e with
  | unnamedStage cause => exact ⟨cause, rfl, rfl⟩
  | _ => cases h

/-! ## Readings -/

/-- A reading that fails by one of the faults, or yields what a condition holds of. -/
inductive Reads {β : Type} (bs : List Blame) (post : β → Prop) : Read β → Prop
  | ok {b : β} (h : post b) : Reads bs post (.ok b)
  | error {e : SettingError} (h : e.blame ∈ bs) : Reads bs post (.error e)

/-- A reading that fails by one of the faults, or succeeds if there are none. -/
abbrev Judged {β : Type} (bs : List Blame) (x : Read β) : Prop := Reads bs (fun _ => bs = []) x

section

variable {α β : Type} {bs cs : List Blame} {x : Read α} {f : α → Read β}

theorem Reads.bind {p : α → Prop} {q : β → Prop} (hx : Reads bs p x)
    (hf : ∀ a, p a → Reads cs q (f a)) : Reads (bs ++ cs) q (x >>= f) := by
  cases hx with
  | error h => exact .error (List.mem_append_left _ h)
  | @ok a h =>
      change Reads (bs ++ cs) q (f a)
      have hfa := hf a h
      generalize f a = y at hfa
      cases hfa with
      | ok h => exact .ok h
      | error h => exact .error (List.mem_append_right _ h)

/-- Faults in the order in which they are looked for. -/
theorem Judged.bind (hx : Judged bs x) (hf : ∀ a, x = .ok a → Judged cs (f a)) :
    Judged (bs ++ cs) (x >>= f) := by
  cases hx with
  | error h => exact .error (List.mem_append_left _ h)
  | @ok a h =>
      rw [h]
      exact hf a rfl

theorem Reads.imp {p q : α → Prop} (hx : Reads bs p x) (hsub : bs ⊆ cs) (h : ∀ a, p a → q a) :
    Reads cs q x := by
  cases hx with
  | error he => exact .error (hsub he)
  | ok ha => exact .ok (h _ ha)

theorem Reads.map {p : α → Prop} {q : β → Prop} (hx : Reads bs p x) (hsub : bs ⊆ cs) {g : α → β}
    (h : ∀ a, p a → q (g a)) : Reads cs q (g <$> x) := by
  cases hx with
  | error he => exact .error (hsub he)
  | ok ha => exact .ok (h _ ha)

theorem Judged.map (hx : Judged bs x) (g : α → β) : Judged bs (g <$> x) :=
  Reads.map hx (List.Subset.refl bs) fun _ h => h

end

/-! ## Lists and paths -/

section

variable {outer key : Text} {β : Type}

theorem judged_asItems {reader : Text → Tree → Read β} {blames : Text → Tree → List Blame}
    (h : ∀ k x, Judged (blames k x) (reader k x)) (items : List Tree) (start : ℕ) :
    Judged (itemBlames blames key start items) (asItems reader key start items) := by
  induction items generalizing start with
  | nil => exact .ok rfl
  | cons x items ih => exact (h _ x).bind fun b _ => (ih (start + 1)).map (b :: ·)

theorem not_isEmpty_of_asItems {reader : Text → Tree → Read β} {x : Tree} {items : List Tree}
    {start : ℕ} {bs : List β} (h : asItems reader key start (x :: items) = .ok bs) :
    ¬bs.isEmpty = true := by
  obtain ⟨first, -, h⟩ := exists_of_bind_eq_ok h
  obtain ⟨others, -, h⟩ := exists_of_bind_eq_ok h
  obtain rfl := Except.ok.inj h
  exact Bool.false_ne_true

theorem judged_asText (value : Tree) :
    Judged ((text fun _ => true).blames outer key (some value)) (asText key value) := by
  cases value with
  | text s => exact .ok rfl
  | _ => exact .error (List.mem_singleton_self _)

theorem judged_asPath (raw : Option Tree) :
    Judged (path.blames outer key raw) (asPath key raw) := by
  cases raw with
  | none => exact .ok rfl
  | some value =>
      cases value with
      | null => exact .ok rfl
      | text s => exact .ok rfl
      | list items => exact judged_asItems (fun k x => judged_asText x) items 0
      | _ => exact .error (List.mem_singleton_self _)

theorem judged_asScalar (value : Tree) :
    Judged (scalar.blames outer key (some value)) (asScalar key value) := by
  cases value with
  | moment m => exact .error (List.mem_singleton_self _)
  | list items => exact .error (List.mem_singleton_self _)
  | mapping entries => exact .error (List.mem_singleton_self _)
  | _ => exact .ok rfl

end

/-! ## Stages -/

section

variable {β : Type} {outer key : Text} {cs : List Blame}

/-- The key of an entry of a value other than the root. -/
theorem stepKey_text (hkey : key ≠ "") {name dotted : Text} (h : "." ++ name = dotted) :
    Step.key key (.entry (.text name)) = key ++ dotted := by
  rw [Step.key, if_neg hkey, Text.append_assoc, Key.name_of_shown rfl, h]

theorem judged_asMapping {names : List Text} {part : Text → Schema} {f : Mapping → Read β}
    (h : ∀ entries, Judged (names.flatMap fun name => (part name).blames key
      (Step.key key (.entry (.text name))) (Mapping.get? entries name)) (f entries)) (value :
        Tree) :
    Judged ((Schema.object names part .ignored).blames outer key (some value))
      (asMapping key value >>= f) := by
  cases value with
  | mapping entries => exact h entries
  | _ => exact .error (List.mem_singleton_self _)

/-- A text that has to be one of a list, once it is normalised. -/
theorem judged_oneOf {allowed : List Text} {g : Text → Text} {s : Text}
    {k : Unit → Read β} {x : Read β} (hx : Judged cs x) :
    Judged ((text fun s => g s ∈ allowed).blames outer key (some (.text s)) ++ cs)
      (if g s ∉ allowed then (throw (.notOneOf key allowed) : Read Unit) >>= k else x) := by
  rw [Schema.blames_text]
  by_cases hs : g s ∈ allowed
  · simpa [hs] using hx
  · simp only [hs]
    exact .error (List.mem_cons_self ..)

theorem judged_requiredOneOf {allowed : List Text} {g : Text → Text} {entries : Mapping}
    {name : Text} {k : Text → Unit → Read β} {f : Text → Read β} (hf : ∀ s, Judged cs (f s)) :
    Judged ((Schema.required (text fun s => g s ∈ allowed)).blames outer key
        (Mapping.get? entries name) ++ cs)
      (required entries name key >>= fun t => asText key t >>= fun s =>
        if g s ∉ allowed then (throw (.notOneOf key allowed) : Read Unit) >>= k s else f s) := by
  unfold required
  cases Mapping.get? entries name with
  | none => exact .error (List.mem_cons_self ..)
  | some t =>
      cases t with
      | text s => exact judged_oneOf (hf s)
      | _ => exact .error (List.mem_cons_self ..)

theorem judged_entryOneOf {allowed : List Text} {g : Text → Text} {default : Text}
    (hdefault : g default ∈ allowed) {entries : Mapping} {name : Text}
    {k : Text → Unit → Read β} {f : Text → Read β} (hf : ∀ s, Judged cs (f s)) :
    Judged ((text fun s => g s ∈ allowed).blames outer key (Mapping.get? entries name) ++ cs)
      (entryOr asText entries name key default >>= fun s =>
        if g s ∉ allowed then (throw (.notOneOf key allowed) : Read Unit) >>= k s else f s) := by
  unfold entryOr
  cases Mapping.get? entries name with
  | none =>
      have hpass : ∀ y : Read β, Judged cs (if g default ∉ allowed then y else f default) := by
        intro y
        rw [if_neg (not_not.2 hdefault)]
        exact hf default
      exact hpass _
  | some t =>
      cases t with
      | text s => exact judged_oneOf (hf s)
      | _ => exact .error (List.mem_cons_self ..)

theorem judged_required {entries : Mapping} {name : Text} {s : Schema} {reader : Tree → Read β}
    (h : ∀ value, Judged (s.blames outer key (some value)) (reader value)) :
    Judged ((Schema.required s).blames outer key (Mapping.get? entries name))
      (required entries name key >>= reader) := by
  unfold required
  cases Mapping.get? entries name with
  | none => exact .error (List.mem_singleton_self _)
  | some value => exact h value

theorem judged_readFilter (hkey : key ≠ "") (value : Tree) :
    Judged (filterSchema.blames outer key (some value)) (readFilter key value) := by
  refine judged_asMapping (fun entries => ?_) value
  have hrelation : Step.key key (.entry (.text "relation")) = key ++ ".relation" :=
    stepKey_text hkey rfl
  have hpath : Step.key key (.entry (.text "path")) = key ++ ".path" := stepKey_text hkey rfl
  have hoperand : Step.key key (.entry (.text "value")) = key ++ ".value" := stepKey_text hkey rfl
  simp only [List.flatMap_cons, List.flatMap_nil, hrelation, hpath, hoperand]
  refine judged_requiredOneOf fun relation => ?_
  refine (judged_asPath _).bind fun path _ => ?_
  rw [List.append_nil]
  exact judged_required fun operand => (judged_asScalar operand).map _

theorem judged_readSort (hkey : key ≠ "") (value : Tree) :
    Judged (sortSchema.blames outer key (some value)) (readSort key value) := by
  refine judged_asMapping (fun entries => ?_) value
  have hdirection : Step.key key (.entry (.text "direction")) = key ++ ".direction" :=
    stepKey_text hkey rfl
  have hpath : Step.key key (.entry (.text "path")) = key ++ ".path" := stepKey_text hkey rfl
  have hasc : Text.lower (Text.trim "asc") ∈ directions := by decide
  simp only [List.flatMap_cons, List.flatMap_nil, hdirection, hpath]
  refine judged_entryOneOf (g := fun s => Text.lower (Text.trim s)) hasc fun direction => ?_
  rw [List.append_nil]
  exact (judged_asPath _).map _

/-- A list of one path or more. -/
theorem judged_asPaths {value : Tree} {k : List FieldPath → Unit → Read β}
    {f : List FieldPath → Read β}
    (hf : ∀ paths, Judged [] (f paths)) :
    Judged ((Schema.list (fun _ => false) true path).blames outer (key ++ ".paths") (some value))
      (asList (fun key value => asPath key (some value)) (key ++ ".paths") value >>= fun paths =>
        if paths.isEmpty then (throw (.noPaths key) : Read Unit) >>= k paths else f paths) := by
  cases value with
  | list items =>
      cases items with
      | nil => exact .error (List.mem_singleton_self _)
      | cons x items =>
          have hblames : (Schema.list (fun _ => false) true path).blames outer (key ++ ".paths")
              (some (.list (x :: items))) = itemBlames
                (fun k x => path.blames (key ++ ".paths") k (some x)) (key ++ ".paths") 0
                (x :: items) := rfl
          have hitem : ∀ k x, Judged (path.blames (key ++ ".paths") k (some x))
              (asPath k (some x)) := fun k x => judged_asPath (some x)
          rw [hblames, ← List.append_nil (itemBlames ..)]
          refine (judged_asItems hitem (x :: items) 0).bind fun paths hpaths => ?_
          rw [if_neg (not_isEmpty_of_asItems hpaths)]
          exact hf paths
  | _ => exact .error (List.mem_singleton_self _)

theorem judged_readProjection (hkey : key ≠ "") (value : Tree) :
    Judged (projectionSchema.blames outer key (some value)) (readProjection key value) := by
  refine judged_asMapping (fun entries => ?_) value
  have hpaths : Step.key key (.entry (.text "paths")) = key ++ ".paths" := stepKey_text hkey rfl
  simp only [List.flatMap_cons, List.flatMap_nil, hpaths, List.append_nil]
  exact judged_required fun listed => judged_asPaths fun paths => .ok rfl

/-! ## Specifications -/

theorem judged_readStage {s : Schema} (hnone : ∀ outer key, s.blames outer key none = [])
    (hkey : key ≠ "") {reader : Text → Tree → Read β} {name : Text}
    (h : ∀ k : Text, ∀ value, k ≠ "" → Judged (s.blames key k (some value)) (reader k value))
    (entries : Mapping) :
    Judged ((Schema.nullable s).blames key (Step.key key (.entry (.text name)))
        (Mapping.get? entries name))
      (readStage reader key entries name) := by
  have hdotted : Step.key key (.entry (.text name)) = key ++ "." ++ name := by
    rw [stepKey_text hkey rfl, Text.append_assoc]
  have hne : key ++ "." ++ name ≠ "" := by
    intro hempty
    have hdot := congrArg Text.toList hempty
    simp at hdot
  rw [hdotted]
  unfold readStage
  cases Mapping.get? entries name with
  | none => exact .ok (hnone ..)
  | some value =>
      cases value with
      | null => exact .ok (hnone ..)
      | _ => exact (h _ _ hne).map some

/-- The stages of a specification without entries of other names. -/
theorem readSpec_mapping {entries : Mapping}
    (h : ∀ entry ∈ entries, entry.1.isAmong stageNames = true) :
    readSpec key (some (.mapping entries)) = (do
      let filter ← readStage readFilter key entries "filter"
      let sort ← readStage readSort key entries "sort"
      let projection ← readStage readProjection key entries "projection"
      return { filter := filter, sort := sort, projection := projection }) := by
  obtain ⟨names, hnames, hleft⟩ :=
    stageNames_iff.2 fun entry hentry => Key.isAmong_iff.1 (h entry hentry)
  rw [readSpec, asMapping, ok_bind, hnames]
  · exact if_neg hleft
  · rintro ⟨⟩

/-- A specification with entries of other names is refused, for one of these. -/
theorem exists_readSpec_error {entries : Mapping}
    (h : ¬∀ entry ∈ entries, entry.1.isAmong stageNames = true) :
    ∃ e, readSpec key (some (.mapping entries)) = .error e ∧
      ∃ entry ∈ entries, entry.1.isAmong stageNames = false ∧ entry.1.blame key = e.blame := by
  rw [readSpec, asMapping, ok_bind]
  · cases hnames : Mapping.shownKeys entries with
    | error cause =>
        obtain ⟨entry, hentry, hshown⟩ := Mapping.exists_of_shownKeys_error hnames
        refine ⟨.unnamedStage cause, rfl, entry, hentry, ?_, ?_⟩
        · rw [Key.isAmong, hshown]
        · rw [Key.blame, hshown]
          rfl
    | ok names =>
        have hleft : (!(names.filter (· ∉ stageNames)).isEmpty) = true := by
          by_contra hleft
          exact h fun entry hentry => Key.isAmong_iff.2
            (stageNames_iff.1 ⟨names, hnames, hleft⟩ entry hentry)
        push Not at h
        obtain ⟨entry, hentry, hother⟩ := h
        obtain ⟨name, hname⟩ := Mapping.exists_shown_of_mem hnames hentry
        refine ⟨_, if_pos hleft, entry, hentry, by simpa using hother, ?_⟩
        rw [Key.blame, hname]
        rfl
  · rintro ⟨⟩

theorem judged_readSpec (hkey : key ≠ "") (raw : Option Tree) :
    Judged ((Schema.nullable specSchema).blames outer key raw) (readSpec key raw) := by
  cases raw with
  | none => exact .ok rfl
  | some value =>
      cases value with
      | null => exact .ok rfl
      | mapping entries =>
          change Judged (specSchema.blames outer key (some (.mapping entries))) _
          rw [specSchema, Schema.blames_object]
          by_cases hnames : ∀ entry ∈ entries, entry.1.isAmong stageNames = true
          · rw [readSpec_mapping hnames, Others.blames_refused_eq_nil.2 (by simpa using hnames),
              List.nil_append]
            simp only [stageNames, List.flatMap_cons, List.flatMap_nil, List.append_nil]
            refine (judged_readStage (s := filterSchema) (fun _ _ => rfl) hkey
              (fun k value hk => judged_readFilter hk value) entries).bind fun filter _ => ?_
            refine (judged_readStage (s := sortSchema) (fun _ _ => rfl) hkey
              (fun k value hk => judged_readSort hk value) entries).bind fun sort _ => ?_
            exact (judged_readStage (s := projectionSchema) (fun _ _ => rfl) hkey
              (fun k value hk => judged_readProjection hk value) entries).map _
          · obtain ⟨e, hread, entry, hentry, hother, hblame⟩ := exists_readSpec_error hnames
            rw [hread]
            exact .error (List.mem_append_left _ (Others.mem_blames_refused.2
              ⟨entry.1, List.mem_map_of_mem hentry, hother, hblame⟩))
      | _ => exact .error (List.mem_singleton_self _)

end

/-! ## Values that are checked later -/

section

variable {outer key name : Text} {entries : Mapping}

theorem reads_text {allowed : Text → Bool} {default : Text} (hdefault : allowed default = true) :
    Reads ((text allowed).blames outer key (Mapping.get? entries name))
      (fun s => (text allowed).blames outer key (Mapping.get? entries name) =
        if allowed s = true then [] else [⟨.value, key⟩])
      (entryOr asText entries name key default) := by
  unfold entryOr
  cases Mapping.get? entries name with
  | none => exact .ok (if_pos hdefault).symm
  | some value =>
      cases value with
      | text s => exact .ok (Schema.blames_text allowed s)
      | _ => exact .error (List.mem_singleton_self _)

theorem judged_boolean {default : Bool} :
    Judged (boolean.blames outer key (Mapping.get? entries name))
      (entryOr asBool entries name key default) := by
  unfold entryOr
  cases Mapping.get? entries name with
  | none => exact .ok rfl
  | some value =>
      cases value with
      | bool b => exact .ok rfl
      | _ => exact .error (List.mem_singleton_self _)

theorem reads_integer {allowed : ℤ → Bool} {default : ℤ} (hdefault : allowed default = true) :
    Reads ((integer allowed).blames outer key (Mapping.get? entries name))
      (fun n => (integer allowed).blames outer key (Mapping.get? entries name) =
        if allowed n = true then [] else [⟨.value, key⟩])
      (entryOr asInt entries name key default) := by
  unfold entryOr
  cases Mapping.get? entries name with
  | none => exact .ok (if_pos hdefault).symm
  | some value =>
      cases value with
      | number n =>
          cases n with
          | int n => exact .ok (Schema.blames_integer allowed n)
          | _ => exact .error (List.mem_singleton_self _)
      | _ => exact .error (List.mem_singleton_self _)

theorem reads_optionalText {allowed : Text → Bool} (raw : Option Tree) :
    Reads ((Schema.nullable (text allowed)).blames outer key raw)
      (fun s => (Schema.nullable (text allowed)).blames outer key raw =
        if (s.map allowed).getD true = true then [] else [⟨.value, key⟩])
      (optionalText key raw) := by
  cases raw with
  | none => exact .ok rfl
  | some value =>
      cases value with
      | null => exact .ok rfl
      | text s => exact .ok (Schema.blames_text allowed s)
      | _ => exact .error (List.mem_singleton_self _)

/-- The faults of words that are read from a list. -/
theorem reads_words {allowed : Text → Bool} (items : List Tree) (start : ℕ) :
    Reads (itemBlames (fun k x => (word allowed).blames key k (some x)) key start items)
      (fun words => words.isEmpty = items.isEmpty ∧
        itemBlames (fun k x => (word allowed).blames key k (some x)) key start items =
          (words.filter (!allowed ·)).map fun _ => ⟨.value, key⟩)
      (asItems asText key start items) := by
  induction items generalizing start with
  | nil => exact .ok ⟨rfl, rfl⟩
  | cons x items ih =>
      cases x with
      | text s =>
          refine Reads.map (ih (start + 1)) (List.subset_append_right ..) (g := (s :: ·))
            fun words h => ⟨rfl, ?_⟩
          rw [itemBlames, Schema.blames_word, h.2]
          by_cases hs : allowed s = true <;> simp [hs]
      | _ => exact .error (List.mem_cons_self ..)

/-- The faults of the formats, whose names are normalised before they are checked. -/
theorem reads_formats :
    Reads ((Schema.list (fun _ => false) true
        (word fun s => (Format.ofName? (Text.lower (Text.trim s))).isSome)).blames outer key
          (Mapping.get? entries name))
      (fun words => (Schema.list (fun _ => false) true
        (word fun s => (Format.ofName? (Text.lower (Text.trim s))).isSome)).blames outer key
          (Mapping.get? entries name) =
        (if (words.map fun name => Text.lower (Text.trim name)).isEmpty = true then [⟨.value, key⟩]
          else []) ++
          ((words.map fun name => Text.lower (Text.trim name)).filter
            fun name => (Format.ofName? name).isNone).map fun _ => ⟨.value, key⟩)
      (entryOr asTexts entries name key ["console"]) := by
  unfold entryOr
  cases Mapping.get? entries name with
  | none =>
      have hdefault : ([Text.ofString "console"].map fun name => Text.lower (Text.trim name)).filter
          (fun name => (Format.ofName? name).isNone) = [] := by decide
      exact .ok (by rw [hdefault]; rfl)
  | some value =>
      cases value with
      | list items =>
          rw [Schema.blames_list]
          refine Reads.imp (reads_words items 0) (List.subset_append_right ..) fun words h => ?_
          rw [h.2, Bool.true_and, ← h.1, List.isEmpty_map, List.filter_map, List.map_map]
          simp only [Option.not_isSome, Function.comp_def]
      | _ => exact .error (List.mem_singleton_self _)

end

/-! ## The two phases -/

section

variable {β : Type} {outer name : Text} {root : Mapping} {s : Schema} {names : List Text}
  {part : Text → Schema} {cs : List Blame} {q : β → Prop} {f : Mapping → Read β}

/-- A section that may be missing; it is then read as one without entries. -/
theorem Reads.optionalSection (hs : s = .object names part .ignored)
    (hempty : s.blames outer name (some (.mapping [])) = [])
    (hf : ∀ entries, (Schema.nullable s).blames outer name (Mapping.get? root name) =
        s.blames outer name (some (.mapping entries)) →
      Reads (s.blames outer name (some (.mapping entries)) ++ cs) q (f entries)) :
    Reads ((Schema.nullable s).blames outer name (Mapping.get? root name) ++ cs) q
      (optionalSection root name >>= f) := by
  subst hs
  unfold Config.optionalSection
  generalize Mapping.get? root name = raw at hf
  cases raw with
  | none =>
      have h := hf [] hempty.symm
      rwa [hempty] at h
  | some value =>
      cases value with
      | null =>
          have h := hf [] hempty.symm
          rwa [hempty] at h
      | mapping entries => exact hf entries rfl
      | _ => exact .error (List.mem_cons_self ..)

theorem Reads.requiredSection (hs : s = .object names part .ignored)
    (hf : ∀ entries, (Schema.nullable (.required s)).blames outer name (Mapping.get? root name) =
        s.blames outer name (some (.mapping entries)) →
      Reads (s.blames outer name (some (.mapping entries)) ++ cs) q (f entries)) :
    Reads ((Schema.nullable (.required s)).blames outer name (Mapping.get? root name) ++ cs) q
      (requiredSection root name >>= f) := by
  subst hs
  unfold Config.requiredSection
  generalize Mapping.get? root name = raw at hf
  cases raw with
  | none => exact .error (List.mem_cons_self ..)
  | some value =>
      cases value with
      | mapping entries => exact hf entries rfl
      | _ => exact .error (List.mem_cons_self ..)

end

/-- The faults of the log settings of a draft. -/
def Draft.logBlames (d : Draft) : List Blame :=
  (if (Level.ofName? d.level).isSome = true then [] else [⟨.value, "log.level"⟩]) ++
    if (!Text.isAllBlank d.logDir) = true then [] else [⟨.value, "log.dir"⟩]

/-- The faults of the query settings of a draft. -/
def Draft.queryBlames (d : Draft) : List Blame :=
  (if decide (d.language ∈ Language.ids) = true then [] else [⟨.value, "query.language"⟩]) ++
    if (d.dataPath.map (!Text.isAllBlank ·)).getD true = true then [] else [⟨.value, "query.data"⟩]

/-- The faults of the output settings of a draft. -/
def Draft.outputBlames (d : Draft) : List Blame :=
  (if (!Text.isAllBlank d.baseDir) = true then [] else [⟨.value, "output.base_dir"⟩]) ++
    ((if d.formats.isEmpty = true then [⟨.value, "output.formats"⟩] else []) ++
      ((d.formats.filter fun name => (Format.ofName? name).isNone).map
        fun _ => ⟨.value, "output.formats"⟩) ++
      if decide (0 ≤ d.indent) = true then [] else [⟨.value, "output.indent"⟩])

/-- The faults of a draft, in the order in which they are looked for. -/
def Draft.blames (d : Draft) : List Blame := d.logBlames ++ (d.queryBlames ++ d.outputBlames)

theorem blames_log (entries : Mapping) :
    logSchema.blames "" "log" (some (.mapping entries)) =
      (text fun s => (Level.ofName? (Text.upper s)).isSome).blames "log" "log.level"
          (Mapping.get? entries "level") ++
        (boolean.blames "log" "log.to_file" (Mapping.get? entries "to_file") ++
          ((text fun s => !Text.isAllBlank s).blames "log" "log.dir" (Mapping.get? entries "dir") ++
            [])) := rfl

theorem blames_query (entries : Mapping) :
    querySchema.blames "" "query" (some (.mapping entries)) =
      (text fun s => Text.lower (Text.trim s) ∈ Language.ids).blames "query" "query.language"
          (Mapping.get? entries "language") ++
        ((Schema.nullable (text fun s => !Text.isAllBlank s)).blames "query" "query.data"
            (Mapping.get? entries "data") ++
          ((Schema.nullable specSchema).blames "query" "query.spec" (Mapping.get? entries "spec") ++
            [])) := rfl

theorem blames_output (entries : Mapping) :
    outputSchema.blames "" "output" (some (.mapping entries)) =
      (text fun s => !Text.isAllBlank s).blames "output" "output.base_dir"
          (Mapping.get? entries "base_dir") ++
        ((Schema.list (fun _ => false) true
            (word fun s => (Format.ofName? (Text.lower (Text.trim s))).isSome)).blames "output"
              "output.formats" (Mapping.get? entries "formats") ++
          ((integer fun n => 0 ≤ n).blames "output" "output.indent"
            (Mapping.get? entries "indent") ++
            [])) := rfl

theorem blames_schema (root : Mapping) :
    schema.blames "" "" (some (.mapping root)) =
      (Schema.nullable logSchema).blames "" "log" (Mapping.get? root "log") ++
        ((Schema.nullable (.required querySchema)).blames "" "query" (Mapping.get? root "query") ++
          ((Schema.nullable outputSchema).blames "" "output" (Mapping.get? root "output") ++
            [])) := rfl

theorem judged_checkLog (d : Draft) : Judged d.logBlames d.checkLog := by
  unfold Draft.logBlames Draft.checkLog
  cases Level.ofName? d.level with
  | none => exact .error (List.mem_cons_self ..)
  | some level =>
      cases hblank : Text.isAllBlank d.logDir with
      | true => exact .error (List.mem_cons_self ..)
      | false => exact .ok rfl

theorem judged_checkQuery (d : Draft) : Judged d.queryBlames d.checkQuery := by
  unfold Draft.queryBlames Draft.checkQuery
  by_cases hlanguage : d.language ∈ Language.ids
  · rw [if_pos (decide_eq_true hlanguage), if_neg (not_not.2 hlanguage), List.nil_append]
    cases d.dataPath with
    | none => exact .ok rfl
    | some path =>
        simp only [Option.map_some, Option.getD_some]
        by_cases hblank : Text.isAllBlank path = true
        · rw [if_pos hblank, if_neg (by simp [hblank])]
          exact .error (List.mem_singleton_self _)
        · rw [if_neg hblank, if_pos (by simp [hblank])]
          exact .ok rfl
  · rw [if_neg (by simpa using hlanguage), if_pos hlanguage]
    exact .error (List.mem_cons_self ..)

theorem judged_checkOutput (d : Draft) : Judged d.outputBlames d.checkOutput := by
  simp only [Draft.outputBlames, Draft.checkOutput]
  cases Text.isAllBlank d.baseDir with
  | true => exact .error (List.mem_cons_self ..)
  | false =>
      simp only [Bool.not_false, if_true, List.nil_append, Bool.false_eq_true, if_false]
      by_cases hempty : d.formats.isEmpty = true
      · rw [if_pos hempty, if_pos hempty]
        exact .error (List.mem_cons_self ..)
      · rw [if_neg hempty, if_neg hempty, List.nil_append]
        cases d.formats.filter fun name => (Format.ofName? name).isNone with
        | cons name names => exact .error (List.mem_cons_self ..)
        | nil =>
            simp only [List.map_nil, List.nil_append, List.isEmpty_nil, Bool.not_true,
              Bool.false_eq_true, if_false, decide_eq_true_eq]
            by_cases hindent : d.indent < 0
            · rw [if_pos hindent, if_neg (not_le.2 hindent)]
              exact .error (List.mem_singleton_self _)
            · rw [if_neg hindent, if_pos (not_lt.1 hindent)]
              exact .ok rfl

/-- **Reading a draft**: the faults that are not found at once are those of the draft. -/
theorem reads_draft (root : Mapping) :
    Reads (schema.blames "" "" (some (.mapping root)))
      (fun d => schema.blames "" "" (some (.mapping root)) = d.blames) (Draft.ofMapping root) := by
  rw [blames_schema]
  unfold Draft.ofMapping
  refine Reads.optionalSection rfl rfl fun log hlog => ?_
  rw [blames_log]
  simp only [List.append_assoc, List.nil_append]
  refine Reads.bind (reads_text (by decide)) fun level hlevel => ?_
  refine Reads.bind judged_boolean fun toFile htoFile => ?_
  refine Reads.bind (reads_text (by decide)) fun logDir hlogDir => ?_
  refine Reads.requiredSection rfl fun query hquery => ?_
  rw [blames_query]
  simp only [List.append_assoc, List.nil_append]
  refine Reads.bind (reads_text (by decide)) fun language hlanguage => ?_
  refine Reads.bind (reads_optionalText _) fun dataPath hdataPath => ?_
  refine Reads.bind (judged_readSpec (by decide) _) fun spec hspec => ?_
  refine Reads.optionalSection rfl rfl fun output houtput => ?_
  rw [blames_output]
  simp only [List.append_assoc, List.nil_append]
  refine Reads.bind (reads_text (by decide)) fun baseDir hbaseDir => ?_
  refine Reads.bind reads_formats fun formats hformats => ?_
  refine Reads.map (reads_integer (by decide)) (List.subset_append_left ..) fun indent hindent => ?_
  rw [hlog, hquery, houtput, blames_log, blames_query, blames_output, hlevel, htoFile, hlogDir,
    hlanguage, hdataPath, hspec, hbaseDir, hformats, hindent]
  simp only [Draft.blames, Draft.logBlames, Draft.queryBlames, Draft.outputBlames,
    List.append_assoc, List.nil_append, List.append_nil]

/-- **Settings are judged by the schema**: they are read from a configuration exactly if the schema
finds no fault, and otherwise the error tells one of the faults. -/
theorem judged_ofMapping (root : Mapping) :
    Judged (schema.blames "" "" (some (.mapping root))) (Settings.ofMapping root) := by
  have hdraft := reads_draft root
  unfold Settings.ofMapping
  generalize Draft.ofMapping root = draft at hdraft
  cases hdraft with
  | error h => exact .error h
  | @ok d h =>
      rw [h]
      refine (judged_checkLog d).bind fun log _ => ?_
      refine (judged_checkQuery d).bind fun query _ => ?_
      exact (judged_checkOutput d).map _

end Winnow.Config
