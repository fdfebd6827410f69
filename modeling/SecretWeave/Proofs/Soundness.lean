import SecretWeave.Proofs.ChildEnvironment
import SecretWeave.Proofs.EnvFile.Values
import SecretWeave.Proofs.Template.Soundness

/-!
# Only paths are asked for

Templates of texts and of env files are sound, and so are the inherited references that a child's
environment goes by. What a source is asked for is thus always a path, whatever the variables hold
(`reached_sound`).
-/

namespace SecretWeave

variable {v : Version} {vars : Bindings} {look : Lookup} {s p : Text}

theorem mem_of_mem_asked {α : Type} {ps : List Text} {finish : Secrets → Except Failure α}
    (h : p ∈ ((fetch look ps).andThen finish).asked) : p ∈ ps := by
  have hasked : (fetch look ps).asked <+: ps := fetch_asked_prefix look ps
  exact hasked.subset h

/-! ## 1. Texts -/

namespace Template

theorem reached_of_prepare {t : Template} (h : prepare v vars s = .ok t) : Reached v 1 t := by
  obtain ⟨t₀, hparse, hi⟩ := prepare_eq_ok_iff.1 h
  exact .filled (.read hparse) hi

theorem isPath_of_asked (h : p ∈ (SecretWeave.inject v vars look s).asked) :
    Text.isPath p = true := by
  unfold SecretWeave.inject at h
  cases hprep : prepare v vars s with
  | error e => rw [hprep] at h; cases h
  | ok t =>
    rw [hprep] at h
    have hsound : t.Sound := (reached_of_prepare hprep).sound
    exact isPath_of_mem_secrets hsound (mem_of_mem_asked h)

end Template

/-! ## 2. Env files -/

namespace EnvFile

variable {file : EnvFile} {t : Template}

theorem exists_parse_of_readPair {pair : Yaml.Value × Yaml.Value} {entry : Text × Template}
    (h : readPair v pair = .ok entry) : ∃ value, Template.parse v value = .ok entry.2 := by
  unfold readPair at h
  split at h
  · cases h
  · split at h
    · cases h
    · split at h
      · cases h
      · split at h
        · cases h
        · rename_i ht
          obtain rfl := Except.ok.inj h
          exact ⟨_, ht⟩

/-- The templates of a document are read from texts of their own. -/
theorem exists_parse_of_readPairs {m n : OrderedMap Text Template}
    {pairs : List (Yaml.Value × Yaml.Value)} (h : readPairs v m pairs = .ok n)
    (hm : ∀ t ∈ m.values, ∃ value, Template.parse v value = .ok t) :
    ∀ t ∈ n.values, ∃ value, Template.parse v value = .ok t := by
  induction pairs generalizing m with
  | nil =>
    obtain rfl := Except.ok.inj h
    exact hm
  | cons pair pairs ih =>
    rw [readPairs] at h
    cases hpair : readPair v pair with
    | error f => rw [hpair] at h; cases h
    | ok entry =>
      rw [hpair] at h
      apply ih h
      intro t ht
      -- a value is the one that was stored last or was there before
      rcases OrderedMap.mem_values_insert ht with rfl | ht
      · exact exists_parse_of_readPair hpair
      · exact hm t ht

theorem exists_parse_of_parseYaml (h : parseYaml v s = .ok file) (ht : t ∈ file.entries.values) :
    ∃ value, Template.parse v value = .ok t := by
  unfold parseYaml at h
  split at h
  · cases h
  · split at h
    · cases h
    · rename_i m hm
      obtain rfl := Except.ok.inj h
      unfold ofValue at hm
      split at hm
      · exact exists_parse_of_readPairs hm (fun t ht => by cases ht) t ht
      · obtain rfl := Except.ok.inj hm
        cases ht
      · cases hm

/-- Every template of a file was read from a text. -/
theorem exists_parse_of_parse (h : parse v s = .ok file) (ht : t ∈ file.entries.values) :
    ∃ value, Template.parse v value = .ok t := by
  unfold parse at h
  cases hl : parseLines v s with
  | ok lines =>
    rw [hl] at h
    obtain rfl := Except.ok.inj h
    obtain ⟨-, value, -, hparse⟩ := exists_last?_of_mem hl ht
    exact ⟨value, hparse⟩
  | error f =>
    rw [hl] at h
    cases hy : parseYaml v s with
    | error g => simp only [hy] at h; cases h
    | ok document =>
      simp only [hy] at h
      obtain rfl := Except.ok.inj h
      exact exists_parse_of_parseYaml hy ht

/-- Every template of a file that was filled is reached. -/
theorem reached_of_prepareFile (h : prepareFile v vars s = .ok file)
    (ht : t ∈ file.entries.values) : Template.Reached v 1 t := by
  obtain ⟨file₀, hparse, hi⟩ := prepareFile_eq_ok_iff.1 h
  obtain ⟨hgood, rfl⟩ := inject_eq_ok_iff.1 hi
  rw [filled, OrderedMap.values_mapValues] at ht
  obtain ⟨t₀, ht₀, rfl⟩ := List.mem_map.1 ht
  -- each template of the file was read and filled by itself
  obtain ⟨value, hvalue⟩ := exists_parse_of_parse hparse ht₀
  obtain ⟨hnames, hfill⟩ := hgood t₀ ht₀
  have hit : t₀.inject vars = .ok (t₀.filled vars) :=
    Template.inject_eq_ok_iff.2 ⟨hnames, hfill, rfl⟩
  exact .filled (.read hvalue) hit

theorem isPath_of_mem_secrets (h : prepareFile v vars s = .ok file) (hp : p ∈ file.secrets) :
    Text.isPath p = true := by
  rw [secrets, mem_distinct, List.mem_flatMap] at hp
  obtain ⟨t, ht, hpt⟩ := hp
  have hsound : t.Sound := (reached_of_prepareFile h ht).sound
  exact Template.isPath_of_mem_secrets hsound (mem_distinct.2 hpt)

theorem isPath_of_asked (h : p ∈ (injectFile v vars look s).asked) : Text.isPath p = true := by
  unfold injectFile at h
  cases hprep : prepareFile v vars s with
  | error e => rw [hprep] at h; cases h
  | ok file =>
    rw [hprep] at h
    exact isPath_of_mem_secrets hprep (mem_of_mem_asked h)

end EnvFile

/-! ## 3. Children -/

namespace ChildEnvironment

variable {c : ChildEnvironment}

/-- References hold paths, since they are checked when they are collected. -/
theorem isPath_of_references {es rs : List (Text × Text)} (h : references es = .ok rs)
    {r : Text × Text} (hr : r ∈ rs) : Text.isPath r.2 = true := by
  rw [references_eq] at h
  cases hfind : (referencesOf es).find? (fun r => !Text.isPath r.2) with
  | some bad => rw [hfind] at h; cases h
  | none =>
    rw [hfind] at h
    obtain rfl := Except.ok.inj h
    simpa using List.find?_eq_none.1 hfind r hr

theorem exists_prepareFile_of_file {f : EnvFile} (h : c.file = .ok (some f)) :
    ∃ s, prepareFile c.version c.vars s = .ok f := by
  unfold file at h
  cases hs : c.envFile with
  | none => simp only [hs] at h; cases h
  | some s =>
    simp only [hs] at h
    cases hprep : prepareFile c.version c.vars s with
    | error e => simp only [hprep] at h; cases h
    | ok f' =>
      simp only [hprep] at h
      obtain rfl := Option.some.inj (Except.ok.inj h)
      exact ⟨s, hprep⟩

theorem isPath_of_asked (h : p ∈ (c.resolve look).asked) : Text.isPath p = true := by
  unfold resolve at h
  cases hf : c.file with
  | error e => rw [hf] at h; cases h
  | ok file =>
    cases hrs : references (OrderedMap.ofList c.inherited).entries with
    | error e => simp only [hf, hrs] at h; cases h
    | ok rs =>
      simp only [hf, hrs] at h
      have hp := mem_of_mem_asked h
      rw [mem_distinct, List.mem_append] at hp
      -- the path is that of a reference or one of the file's
      rcases hp with hp | hp
      · obtain ⟨r, hr, rfl⟩ := List.mem_map.1 hp
        exact isPath_of_references hrs hr
      · cases file with
        | none => cases hp
        | some f =>
          obtain ⟨s, hprep⟩ := exists_prepareFile_of_file hf
          exact EnvFile.isPath_of_mem_secrets hprep hp

end ChildEnvironment

/-! ## 4. All that is reached -/

namespace Template

/-- Templates stay sound, however often and with whatever values their variables are replaced, and
after the first time no variable is left. The parts of a path that embeds variables are a template
too, the one that was read inside its tag, and once its variables are replaced nothing but text is
left to be joined. A variable that is reported missing has a name and is one of the template's. And
texts, env files and children's environments ask for paths only: they are not empty and hold neither
blanks nor controls. -/
theorem reached_sound (v : Version) :
    (∀ n t, Reached v n t → t.Sound) ∧
    (∀ n t, Reached v (n + 1) t → t.Settled) ∧
    (∀ n t, Reached v n t → ∀ parts raw, .secret (.pattern parts) raw ∈ t.segments →
      ∃ content, readDeep v.brackets 1 content = .ok ⟨parts.map segmentOf⟩) ∧
    (∀ vars parts, flatten vars parts =
      (substitute vars (parts.map segmentOf)).bind plainText ∧
        ∀ ss, substitute vars (parts.map segmentOf) = .ok ss → ∃ p, plainText ss = .ok p) ∧
    (∀ n t, Reached v n t → ∀ values name,
      t.resolve values = .error (.undefinedVariable name) → name ∈ t.variableNames ∧ name ≠ []) ∧
    (∀ vars look s, ∀ p ∈ (SecretWeave.inject v vars look s).asked,
      p ≠ [] ∧ ∀ c ∈ p, Text.isBlank c = false ∧ Text.isControl c = false) ∧
    (∀ vars look s, ∀ p ∈ (injectFile v vars look s).asked,
      p ≠ [] ∧ ∀ c ∈ p, Text.isBlank c = false ∧ Text.isControl c = false) ∧
    ∀ (child : ChildEnvironment) look, ∀ p ∈ (child.resolve look).asked,
      p ≠ [] ∧ ∀ c ∈ p, Text.isBlank c = false ∧ Text.isControl c = false := by
  have hpath : ∀ {p : Text}, Text.isPath p = true →
      p ≠ [] ∧ ∀ c ∈ p, Text.isBlank c = false ∧ Text.isControl c = false := by
    intro p hp
    simpa [Text.isPath, Text.isSolid] using hp
  refine ⟨?_, ?_, ?_, ?_, ?_, ?_, ?_, ?_⟩
  · intro n t h
    exact h.sound
  · intro n t h
    exact h.settled
  · intro n t h parts raw hmem
    exact h.exists_readDeep hmem
  · intro vars parts
    exact ⟨flatten_eq_bind vars parts, fun ss => exists_plainText_of_substitute⟩
  · intro n t h values name hr
    have hmem := mem_variableNames_of_resolve h.sound hr
    refine ⟨hmem, ?_⟩
    rintro rfl
    -- the empty text is no name
    cases isName_of_mem_variableNames h.sound hmem
  · intro vars look s p hp
    exact hpath (isPath_of_asked hp)
  · intro vars look s p hp
    exact hpath (EnvFile.isPath_of_asked hp)
  · intro child look p hp
    exact hpath (ChildEnvironment.isPath_of_asked hp)

end Template

end SecretWeave
