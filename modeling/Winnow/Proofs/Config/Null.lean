import Winnow.Proofs.Config.Blame
import Winnow.Proofs.Config.Change

/-!
# Null where an entry may be missing

Where the schema takes null for a missing entry, the settings are read alike from a configuration
with null and from one without the entry.

* `Schema.takesNull` — the schemas of such entries.
* `Alike` — values that are the same but for null in place of missing entries.
* `alike_of_changed` — configurations with null and without the entry at one place are such values.
* `asPath_alike`, `readSpec_alike`, `ofMapping_alike` — what is read from such values is the same.
-/

namespace Winnow.Config

open Schema (text word boolean integer scalar path)

/-- Whether null counts as missing. -/
def Schema.takesNull : Schema → Bool
  | leaf _ _ => false
  | list alone _ _ => alone .null
  | object _ _ _ => false
  | required _ => false
  | nullable _ => true

/-- Values that are the same but for null in place of missing entries. Neither has entries of
refused names. -/
inductive Alike : Schema → Option Tree → Option Tree → Prop
  | refl (s : Schema) (value : Option Tree) : Alike s value value
  | null {s : Schema} (h : s.takesNull = true) : Alike s (some .null) none
  | required {s : Schema} {v w : Option Tree} (h : Alike s v w) : Alike (.required s) v w
  | nullable {s : Schema} {v w : Option Tree} (h : Alike s v w) : Alike (.nullable s) v w
  | item {alone : Tree → Bool} {inhabited : Bool} {item : Schema} {x y : Tree} (items : List Tree)
      (i : ℕ)
      (h : Alike item (some x) (some y)) :
      Alike (.list alone inhabited item) (some (.list (items.set i x)))
        (some (.list (items.set i y)))
  | parts {names : List Text} {part : Text → Schema} {others : Others names} {key : Text}
      {entries changed : Mapping}
      (h : ∀ name ∈ names,
        Alike (part name) (Mapping.get? entries name) (Mapping.get? changed name))
      (hentries : others.blames key entries = []) (hchanged : others.blames key changed = []) :
      Alike (.object names part others) (some (.mapping entries)) (some (.mapping changed))

/-! ## Places -/

/-- Below what is not read or not taken, null counts nowhere as missing. -/
theorem Others.takesNull_at? {names : List Text} {others : Others names} {k : Key}
    {place : List Step} {t : Schema} (hat : (others.schema k).at? place = some t) :
    t.takesNull = false := by
  unfold Others.schema at hat
  split at hat <;> cases place <;> first | exact Option.some.inj hat ▸ rfl | cases hat

theorem alike_of_entry {s part t : Schema} {k : Key} {place : List Step}
    (hsub : s.sub? (.entry k) = some part) (hat : part.at? place = some t)
    (hnull : t.takesNull = true) {outer key : Text} {entries : Mapping}
    (hold : s.blames outer key (some (.mapping entries)) = []) {v w : Option Tree}
    (h : Alike part v w) :
    Alike s (some (.mapping (Mapping.set entries k v)))
      (some (.mapping (Mapping.set entries k w))) := by
  induction s with
  | leaf verdict own => cases hsub
  | list alone inhabited item => cases hsub
  | required s ih => exact .required (ih hsub hold)
  | nullable s ih => exact .nullable (ih hsub hold)
  | object names part' others ih =>
      simp only [Schema.blames, List.append_eq_nil_iff] at hold
      simp only [Schema.sub?] at hsub
      split at hsub
      · next name hfind =>
          obtain rfl := Option.some.inj hsub
          have hname := List.mem_of_find?_eq_some hfind
          obtain rfl : k = .text name := by simpa using List.find?_some hfind
          refine .parts (fun other hother => ?_) (Others.blames_set hname hold.2.1 v)
            (Others.blames_set hname hold.2.1 w)
          rw [Mapping.get?_set, Mapping.get?_set]
          split_ifs with heq
          · obtain rfl := Key.text.inj heq
            exact h
          · exact .refl ..
      · obtain rfl := Option.some.inj hsub
        rw [Others.takesNull_at? hat] at hnull
        cases hnull

theorem alike_of_item {s item : Schema} {i : ℕ} (hsub : s.sub? (.item i) = some item)
    (items : List Tree) {x y : Tree} (h : Alike item (some x) (some y)) :
    Alike s (some (.list (items.set i x))) (some (.list (items.set i y))) := by
  induction s with
  | leaf verdict own => cases hsub
  | object names part others ih => cases hsub
  | required s ih => exact .required (ih hsub)
  | nullable s ih => exact .nullable (ih hsub)
  | list alone inhabited item' ih =>
      obtain rfl := Option.some.inj hsub
      exact .item items i h

/-- **Null and a missing entry.** Where null counts as missing, configurations with null and without
the entry are alike. -/
theorem alike_of_changed {place : List Step} {old nulled missing : Option Tree}
    (hnulled : Changed (some .null) place old nulled) (hmissing : Changed none place old missing)
    {s t : Schema} (hat : s.at? place = some t) (hnull : t.takesNull = true) {outer key : Text}
    (hold : s.blames outer key old = []) : Alike s nulled missing := by
  induction hnulled generalizing s outer key missing with
  | here old =>
      cases hmissing with
      | here => exact .null (Option.some.inj hat ▸ hnull)
  | entry h ih =>
      cases hmissing with
      | entry h' =>
          obtain ⟨part, hsub, hat⟩ := Option.bind_eq_some_iff.1 hat
          exact alike_of_entry hsub hat hnull hold (ih h' hat (Schema.blames_entry hsub hold))
  | item hx h ih =>
      cases hmissing with
      | item hx' h' =>
          obtain ⟨item, hsub, hat⟩ := Option.bind_eq_some_iff.1 hat
          obtain rfl := Option.some.inj (hx.symm.trans hx')
          exact alike_of_item hsub _ (ih h' hat (Schema.blames_item hsub hx hold))

/-! ## Values -/

section

variable {v w : Option Tree}

theorem Alike.eq_of_leaf {verdict : Tree → Verdict} {own : Bool}
    (h : Alike (.leaf verdict own) v w) :
    v = w := by
  cases h with
  | refl => rfl
  | null h => cases h

theorem Alike.eq_of_required {verdict : Tree → Verdict} {own : Bool}
    (h : Alike (.required (.leaf verdict own)) v w) : v = w := by
  cases h with
  | refl => rfl
  | null h => cases h
  | required h => exact h.eq_of_leaf

theorem Alike.eq_of_leaves {alone : Tree → Bool} {inhabited : Bool} {verdict : Tree → Verdict}
    {own : Bool} (hnull : alone .null = false)
    (h : Alike (.list alone inhabited (.leaf verdict own)) v w) : v = w := by
  cases h with
  | refl => rfl
  | null h => exact absurd (h.symm.trans hnull) (by decide)
  | item items i h => rw [Option.some.inj h.eq_of_leaf]

theorem asItems_set {β : Type} {reader : Text → Tree → Read β} {x y : Tree}
    (h : ∀ key, reader key x = reader key y) (items : List Tree) (i start : ℕ) :
    asItems reader key start (items.set i x) = asItems reader key start (items.set i y) := by
  induction items generalizing i start with
  | nil => rfl
  | cons z items ih =>
      cases i with
      | zero => rw [List.set_cons_zero, List.set_cons_zero, asItems, asItems, h]
      | succ i => rw [List.set_cons_succ, List.set_cons_succ, asItems, asItems, ih]

theorem asPath_alike (h : Alike path v w) (key : Text) : asPath key v = asPath key w := by
  cases h with
  | refl => rfl
  | null => rfl
  | item items i h => rw [Option.some.inj h.eq_of_leaf]

end

/-! ## Specifications -/

section

variable {β : Type} {key name : Text} {entries changed : Mapping}

theorem required_congr (h : Mapping.get? entries name = Mapping.get? changed name) :
    required entries name key = required changed name key := by
  rw [required, required, h]

theorem entryOr_congr {reader : Text → Tree → Read β}
    (h : Mapping.get? entries name = Mapping.get? changed name) (default : β) :
    entryOr reader entries name key default = entryOr reader changed name key default := by
  rw [entryOr, entryOr, h]

end

section

variable {x y : Tree}

theorem readFilter_alike (h : Alike filterSchema (some x) (some y)) (key : Text) :
    readFilter key x = readFilter key y := by
  cases h with
  | refl => rfl
  | parts h =>
      have hrelation := (h "relation" (by decide)).eq_of_required
      have hpath := asPath_alike (h "path" (by decide))
      have hoperand := (h "value" (by decide)).eq_of_required
      simp only [readFilter, asMapping, ok_bind, required_congr hrelation, hpath,
        required_congr hoperand]

theorem readSort_alike (h : Alike sortSchema (some x) (some y)) (key : Text) :
    readSort key x = readSort key y := by
  cases h with
  | refl => rfl
  | parts h =>
      have hdirection := (h "direction" (by decide)).eq_of_leaf
      have hpath := asPath_alike (h "path" (by decide))
      simp only [readSort, asMapping, ok_bind, entryOr_congr hdirection, hpath]

theorem asPaths_alike (h : Alike (.list (fun _ => false) true path) (some x) (some y))
    (key : Text) :
    asList (fun key value => asPath key (some value)) key x =
      asList (fun key value => asPath key (some value)) key y := by
  cases h with
  | refl => rfl
  | item items i h => exact asItems_set (fun key => asPath_alike h key) items i 0

theorem readProjection_alike (h : Alike projectionSchema (some x) (some y)) (key : Text) :
    readProjection key x = readProjection key y := by
  cases h with
  | refl => rfl
  | @parts _ _ _ _ entries changed h =>
      have hpaths := h "paths" (by decide)
      simp only [readProjection, asMapping, ok_bind, required]
      generalize Mapping.get? entries "paths" = v at hpaths
      generalize Mapping.get? changed "paths" = w at hpaths
      cases hpaths with
      | refl => rfl
      | null h => cases h
      | required h =>
          cases h with
          | refl => rfl
          | null h => cases h
          | item items i h => simp only [ok_bind, asPaths_alike (.item items i h)]

theorem readStage_alike {β : Type} {names : List Text} {part : Text → Schema}
    {others : Others names} {reader : Text → Tree → Read β}
    (hreader : ∀ key x y, Alike (.object names part others) (some x) (some y) →
      reader key x = reader key y)
    {entries changed : Mapping} {name : Text}
    (h : Alike (.nullable (.object names part others)) (Mapping.get? entries name)
      (Mapping.get? changed name)) (key : Text) :
    readStage reader key entries name = readStage reader key changed name := by
  unfold readStage
  generalize Mapping.get? entries name = v at h
  generalize Mapping.get? changed name = w at h
  cases h with
  | refl => rfl
  | null => rfl
  | nullable h =>
      cases h with
      | refl => rfl
      | null h => cases h
      | parts h hentries hchanged =>
          exact congrArg (some <$> ·) (hreader _ _ _ (.parts h hentries hchanged))

theorem readSpec_alike {v w : Option Tree} (h : Alike (.nullable specSchema) v w) (key : Text) :
    readSpec key v = readSpec key w := by
  cases h with
  | refl => rfl
  | null => rfl
  | nullable h =>
      cases h with
      | refl => rfl
      | null h => cases h
      | @parts _ _ _ _ entries changed h hentries hchanged =>
          have hnames := Others.blames_refused_eq_nil.1 hentries
          have hnames' := Others.blames_refused_eq_nil.1 hchanged
          have hfilter : readStage readFilter key entries "filter" =
              readStage readFilter key changed "filter" :=
            readStage_alike (fun key _ _ h => readFilter_alike h key) (h "filter" (by decide)) key
          have hsort :
              readStage readSort key entries "sort" = readStage readSort key changed "sort" :=
            readStage_alike (fun key _ _ h => readSort_alike h key) (h "sort" (by decide)) key
          have hprojection : readStage readProjection key entries "projection" =
              readStage readProjection key changed "projection" :=
            readStage_alike (fun key _ _ h => readProjection_alike h key)
              (h "projection" (by decide)) key
          rw [readSpec_mapping (by simpa using hnames), readSpec_mapping (by simpa using hnames'),
            hfilter, hsort, hprojection]

theorem optionalText_alike {allowed : Text → Bool} {v w : Option Tree}
    (h : Alike (.nullable (text allowed)) v w) (key : Text) :
    optionalText key v = optionalText key w := by
  cases h with
  | refl => rfl
  | null => rfl
  | nullable h => rw [h.eq_of_leaf]

end

/-! ## Sections -/

/-- The parts of two mappings are alike. -/
def PartsAlike (names : List Text) (part : Text → Schema) (entries changed : Mapping) : Prop :=
  ∀ name ∈ names, Alike (part name) (Mapping.get? entries name) (Mapping.get? changed name)

section

variable {names : List Text} {part : Text → Schema} {root changed : Mapping} {name : Text}

theorem PartsAlike.refl (entries : Mapping) : PartsAlike names part entries entries :=
  fun _ _ => .refl ..

theorem optionalSection_alike
    (h : Alike (.nullable (.object names part .ignored)) (Mapping.get? root name)
      (Mapping.get? changed name)) :
    SameOutcome (PartsAlike names part) (optionalSection root name)
      (optionalSection changed name) := by
  unfold optionalSection
  generalize Mapping.get? root name = v at h
  generalize Mapping.get? changed name = w at h
  cases h with
  | refl => exact .refl PartsAlike.refl _
  | null => exact .ok (PartsAlike.refl [])
  | nullable h =>
      cases h with
      | refl => exact .refl PartsAlike.refl _
      | null h => cases h
      | parts h => exact .ok h

theorem requiredSection_alike
    (h : Alike (.nullable (.required (.object names part .ignored))) (Mapping.get? root name)
      (Mapping.get? changed name)) :
    SameOutcome (PartsAlike names part) (requiredSection root name)
      (requiredSection changed name) := by
  unfold requiredSection
  generalize Mapping.get? root name = v at h
  generalize Mapping.get? changed name = w at h
  cases h with
  | refl => exact .refl PartsAlike.refl _
  | null => exact .error _
  | nullable h =>
      cases h with
      | refl => exact .refl PartsAlike.refl _
      | null h => cases h
      | required h =>
          cases h with
          | refl => exact .refl PartsAlike.refl _
          | null h => cases h
          | parts h => exact .ok h

end

/-- **Settings are read alike** from configurations that are the same but for null in place of
missing entries. -/
theorem ofMapping_alike {root changed : Mapping}
    (h : Alike schema (some (.mapping root)) (some (.mapping changed))) :
    Settings.ofMapping root = Settings.ofMapping changed := by
  cases h with
  | refl => rfl
  | parts h =>
      have hdraft : Draft.ofMapping root = Draft.ofMapping changed := by
        unfold Draft.ofMapping
        rcases (optionalSection_alike (h "log" (by decide))).cases_eq with
          ⟨log, log', hlog, hlog', hparts⟩ | ⟨e, hlog, hlog'⟩
        · have hlevel := (hparts "level" (by decide)).eq_of_leaf
          have htoFile := (hparts "to_file" (by decide)).eq_of_leaf
          have hdir := (hparts "dir" (by decide)).eq_of_leaf
          simp only [hlog, hlog', ok_bind, entryOr_congr hlevel, entryOr_congr htoFile,
            entryOr_congr hdir]
          rcases (requiredSection_alike (h "query" (by decide))).cases_eq with
            ⟨query, query', hquery, hquery', hparts⟩ | ⟨e, hquery, hquery'⟩
          · have hlanguage := (hparts "language" (by decide)).eq_of_leaf
            have hdata := optionalText_alike (hparts "data" (by decide))
            have hspec := readSpec_alike (hparts "spec" (by decide))
            simp only [hquery, hquery', ok_bind, entryOr_congr hlanguage, hdata, hspec]
            rcases (optionalSection_alike (h "output" (by decide))).cases_eq with
              ⟨output, output', houtput, houtput', hparts⟩ | ⟨e, houtput, houtput'⟩
            · have hbaseDir := (hparts "base_dir" (by decide)).eq_of_leaf
              have hformats := (hparts "formats" (by decide)).eq_of_leaves rfl
              have hindent := (hparts "indent" (by decide)).eq_of_leaf
              simp only [houtput, houtput', ok_bind, entryOr_congr hbaseDir, entryOr_congr hformats,
                entryOr_congr hindent]
            · simp only [houtput, houtput', error_bind]
          · simp only [hquery, hquery', error_bind]
        · rw [hlog, hlog']
          rfl
      rw [Settings.ofMapping, Settings.ofMapping, hdraft]

end Winnow.Config
