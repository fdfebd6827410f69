import SecretWeave.Proofs.ChildEnvironment

/-!
# Values do not steer

What a source is asked for, and whether and how an operation fails, depends on the text, on the
names of variables and on the values of variables inside paths. Other values, those of secrets above
all, only show in the result (`values_do_not_steer`).
-/

namespace SecretWeave

/-! ## 1. Inputs that differ in values -/

/-- Sources that have values for the same paths, and fail alike for the others. -/
def SamePaths (look₁ look₂ : Lookup) : Prop :=
  ∀ p, Alike (look₁ p) (look₂ p)

/-- Variables of the same names. Where several names are bad, the first that is met is reported, so
that one has to be the same; with the same order of names it is. -/
structure SameNames (vars₁ vars₂ : Bindings) : Prop where
  keys : ∀ n, n ∈ vars₁.keys ↔ n ∈ vars₂.keys
  badName? : vars₁.badName? = vars₂.badName?

def AgreeOn (vars₁ vars₂ : Bindings) (names : List Text) : Prop :=
  ∀ n ∈ names, vars₁.get? n = vars₂.get? n

def Segment.pathVariables : Segment → List Text
  | .literal _ => []
  | .var _ => []
  | .secret p _ => p.variableNames

def Template.pathVariables (t : Template) : List Text :=
  t.segments.flatMap Segment.pathVariables

def EnvFile.pathVariables (file : EnvFile) : List Text :=
  file.entries.values.flatMap Template.pathVariables

def EnvFile.variableNames (file : EnvFile) : List Text :=
  file.entries.values.flatMap Template.variableNames

variable {vars₁ vars₂ : Bindings} {look₁ look₂ : Lookup}

/-- Mappings that differ in values only have the same names. -/
theorem SameNames.of_keys_eq (h : vars₁.keys = vars₂.keys) : SameNames vars₁ vars₂ := by
  refine ⟨fun n => by rw [h], ?_⟩
  unfold Bindings.badName?
  rw [h]

/-- Mappings that have the same names in whatever order have the same names in this sense as well, as
long as no two of the names are bad. -/
theorem SameNames.of_mem_keys (hkeys : ∀ n, n ∈ vars₁.keys ↔ n ∈ vars₂.keys)
    (hone : ∀ m ∈ vars₁.keys, ∀ n ∈ vars₁.keys,
      Text.isName m = false → Text.isName n = false → m = n) : SameNames vars₁ vars₂ := by
  refine ⟨hkeys, ?_⟩
  cases h₂ : vars₂.badName? with
  | none =>
    have hgood := Template.badName?_eq_none_iff.1 h₂
    exact Template.badName?_eq_none_iff.2 fun n hn => hgood n ((hkeys n).1 hn)
  | some n =>
    -- the other mapping has this name too, and no other bad one
    obtain ⟨hn, hbad⟩ := Template.mem_of_badName? h₂
    cases h₁ : vars₁.badName? with
    | none =>
      have hgood := Template.badName?_eq_none_iff.1 h₁ n ((hkeys n).2 hn)
      cases hbad.symm.trans hgood
    | some m =>
      obtain ⟨hm, hbad'⟩ := Template.mem_of_badName? h₁
      rw [hone m hm n ((hkeys n).2 hn) hbad' hbad]

theorem AgreeOn.of_subset {ns ms : List Text} (h : AgreeOn vars₁ vars₂ ns) (hs : ∀ n ∈ ms, n ∈ ns) :
    AgreeOn vars₁ vars₂ ms :=
  fun n hn => h n (hs n hn)

theorem AgreeOn.of_mem_flatMap {β : Type} {g : β → List Text} {l : List β} {b : β}
    (h : AgreeOn vars₁ vars₂ (l.flatMap g)) (hb : b ∈ l) : AgreeOn vars₁ vars₂ (g b) :=
  h.of_subset fun _ hn => List.mem_flatMap.2 ⟨b, hb, hn⟩

theorem AgreeOn.value_eq {ns : List Text} (h : AgreeOn vars₁ vars₂ ns) {n : Text} (hn : n ∈ ns) :
    vars₁.value n = vars₂.value n := by
  unfold Bindings.value
  rw [h n hn]

/-! ## 2. Needs -/

namespace Template

/-- The text of a pattern depends on the variables inside it only. -/
theorem flatten_congr {parts : List PathPart}
    (h : AgreeOn vars₁ vars₂ (parts.filterMap PathPart.embedded?)) :
    flatten vars₁ parts = flatten vars₂ parts := by
  induction parts with
  | nil => rfl
  | cons p ps ih =>
    cases p with
    | text t =>
      rw [flatten, flatten, ih h]
    | var v =>
      rw [List.filterMap_cons_some (rfl : (PathPart.var v).embedded? = some v.name)] at h
      have hv : valueOf vars₁ v.name = valueOf vars₂ v.name := by
        unfold valueOf
        rw [h v.name List.mem_cons_self]
      rw [flatten, flatten, hv, ih (h.of_subset fun n hn => List.mem_cons_of_mem _ hn)]

theorem filled_congr {p : SecretPath} (h : AgreeOn vars₁ vars₂ p.variableNames) :
    p.filled vars₁ = p.filled vars₂ := by
  cases p with
  | path p => rfl
  | pattern parts =>
    apply List.flatMap_congr
    intro part hpart
    cases part with
    | text t => rfl
    | var v => exact h.value_eq (List.mem_filterMap.2 ⟨_, hpart, rfl⟩)

/-- Whether a segment can be filled depends on names and on values inside its path. -/
theorem substituteSegment_alike (hv : SameNames vars₁ vars₂) {s : Segment}
    (h : AgreeOn vars₁ vars₂ s.pathVariables) :
    Alike (substituteSegment vars₁ s) (substituteSegment vars₂ s) := by
  cases s with
  | literal t => exact Alike.refl _
  | var v =>
    -- a variable outside paths may change its value, but not whether it has one
    rw [substituteSegment, substituteSegment]
    by_cases hn : v.name ∈ vars₁.keys
    · rw [valueOf_of_mem hn, valueOf_of_mem ((hv.keys v.name).1 hn)]
      exact .ok _ _
    · rw [valueOf_of_not_mem hn, valueOf_of_not_mem fun hn' => hn ((hv.keys v.name).2 hn')]
      exact .error _
  | secret p raw =>
    cases p with
    | path p => exact Alike.refl _
    | pattern parts =>
      -- inside paths the values agree, and so do the paths and their faults
      rw [substituteSegment, substituteSegment, flatten_congr h]
      exact Alike.refl _

/-- The same of a whole template. -/
theorem inject_alike (hv : SameNames vars₁ vars₂) {t : Template}
    (h : AgreeOn vars₁ vars₂ t.pathVariables) : Alike (t.inject vars₁) (t.inject vars₂) := by
  have hss : Alike (substitute vars₁ t.segments) (substitute vars₂ t.segments) := by
    rw [substitute_eq_mapM, substitute_eq_mapM]
    exact mapM_alike fun s hs => substituteSegment_alike hv (h.of_mem_flatMap hs)
  unfold inject
  rw [hv.badName?]
  -- the names are checked first, and they are the same
  cases vars₂.badName? with
  | some n => exact .error _
  | none =>
    generalize substitute vars₁ t.segments = x at hss ⊢
    generalize substitute vars₂ t.segments = y at hss ⊢
    cases hss with
    | ok ss₁ ss₂ => exact .ok _ _
    | error f => exact .error f

theorem uses_congr {t : Template} (h : AgreeOn vars₁ vars₂ t.pathVariables) :
    t.uses vars₁ = t.uses vars₂ := by
  apply List.filterMap_congr
  intro s hs
  cases s with
  | literal t => rfl
  | var v => rfl
  | secret p raw =>
    have hp : AgreeOn vars₁ vars₂ p.variableNames := h.of_mem_flatMap hs
    rw [Segment.lookup?, Segment.lookup?, filled_congr hp]

/-- What a template needs depends on names and on values inside paths. -/
theorem needs_congr (hv : SameNames vars₁ vars₂) {v : Version} {s : Text}
    (h : ∀ t, parse v s = .ok t → AgreeOn vars₁ vars₂ t.pathVariables) :
    needs v vars₁ s = needs v vars₂ s := by
  unfold needs
  cases hp : parse v s with
  | error f => rfl
  | ok t =>
    -- reading knows no variables, so the two runs part at filling if at all
    have halike := inject_alike hv (h t hp)
    generalize h₁ : t.inject vars₁ = x at halike
    generalize h₂ : t.inject vars₂ = y at halike
    cases halike with
    | ok t₁ t₂ => simp only [h₁, h₂, demand, uses_congr (h t hp)]
    | error f => simp only [h₁, h₂]

/-- What a template says depends on the values of all its variables and on its secrets. -/
theorem rendered_congr {f₁ f₂ : Text → Bytes} {t : Template}
    (h : AgreeOn vars₁ vars₂ t.variableNames) (hf : ∀ p ∈ t.uses vars₁, f₁ p = f₂ p) :
    t.rendered vars₁ f₁ = t.rendered vars₂ f₂ := by
  apply List.flatMap_congr
  intro s hs
  have hnames : ∀ n ∈ s.variableNames, n ∈ t.variableNames := fun n hn =>
    mem_variableNames.2 ⟨s, hs, hn⟩
  cases s with
  | literal t => rfl
  | var v => exact h.value_eq (hnames v.name (by simp [Segment.variableNames]))
  | secret p raw =>
    have hp : AgreeOn vars₁ vars₂ p.variableNames := h.of_subset hnames
    rw [Segment.rendered, Segment.rendered, ← filled_congr hp,
      hf _ (List.mem_filterMap.2 ⟨_, hs, rfl⟩)]

end Template

namespace EnvFile

/-- And of a file, template by template. -/
theorem inject_alike (hv : SameNames vars₁ vars₂) {file : EnvFile}
    (h : AgreeOn vars₁ vars₂ file.pathVariables) : Alike (file.inject vars₁) (file.inject vars₂) := by
  have hentries := OrderedMap.traverse_alike (m := file.entries) fun t ht =>
    Template.inject_alike hv (h.of_mem_flatMap ht)
  unfold inject
  generalize file.entries.traverse (Template.inject vars₁) = x at hentries ⊢
  generalize file.entries.traverse (Template.inject vars₂) = y at hentries ⊢
  cases hentries with
  | ok m₁ m₂ => exact .ok _ _
  | error f => exact .error f

theorem uses_congr {file : EnvFile} (h : AgreeOn vars₁ vars₂ file.pathVariables) :
    file.uses vars₁ = file.uses vars₂ := by
  apply List.flatMap_congr
  intro t ht
  exact Template.uses_congr (h.of_mem_flatMap ht)

/-- What an env file needs depends on names and on values inside paths. -/
theorem needs_congr (hv : SameNames vars₁ vars₂) {v : Version} {s : Text}
    (h : ∀ file, parse v s = .ok file → AgreeOn vars₁ vars₂ file.pathVariables) :
    needs v vars₁ s = needs v vars₂ s := by
  unfold needs
  cases hp : parse v s with
  | error f => rfl
  | ok file =>
    have halike := inject_alike hv (h file hp)
    generalize h₁ : file.inject vars₁ = x at halike
    generalize h₂ : file.inject vars₂ = y at halike
    cases halike with
    | ok file₁ file₂ => simp only [h₁, h₂, demand, uses_congr (h file hp)]
    | error f => simp only [h₁, h₂]

/-- What a file says depends on the values of all its variables and on its secrets. -/
theorem rendered_congr {f₁ f₂ : Text → Bytes} {file : EnvFile}
    (h : AgreeOn vars₁ vars₂ file.variableNames) (hf : ∀ p ∈ file.uses vars₁, f₁ p = f₂ p) :
    file.rendered vars₁ f₁ = file.rendered vars₂ f₂ := by
  apply OrderedMap.mapValues_congr
  intro t ht
  apply Template.rendered_congr (h.of_mem_flatMap ht)
  intro p hp
  exact hf p (List.mem_flatMap.2 ⟨t, ht, hp⟩)

theorem keys_rendered (vars : Bindings) (f : Text → Bytes) (file : EnvFile) :
    (file.rendered vars f).keys = file.entries.keys :=
  OrderedMap.keys_mapValues _ _

end EnvFile

namespace ChildEnvironment

variable {c : ChildEnvironment}

/-- What a child needs depends on names and on values inside paths. -/
theorem needs_congr (hv : SameNames vars₁ vars₂)
    (h : ∀ file, c.readFile = .ok (some file) → AgreeOn vars₁ vars₂ file.pathVariables) :
    needs { c with vars := vars₁ } = needs { c with vars := vars₂ } := by
  have hfile : fileNeeds { c with vars := vars₁ } = fileNeeds { c with vars := vars₂ } := by
    unfold fileNeeds
    unfold readFile at h
    cases hs : c.envFile with
    | none => rfl
    | some s =>
      apply EnvFile.needs_congr hv
      intro file hp
      apply h
      simp only [hs, hp]
      rfl
  rw [needs, needs, hfile]
  rfl

/-- What the environment holds depends on the values of all variables and on the secrets. -/
theorem rendered_congr {f₁ f₂ : Text → Bytes} {file : Option EnvFile}
    (h : ∀ f, file = some f → AgreeOn vars₁ vars₂ f.variableNames)
    (hfile : ∀ f, file = some f → ∀ p ∈ f.uses vars₁, f₁ p = f₂ p)
    (hrefs : ∀ r ∈ c.ownReferences, f₁ r.2 = f₂ r.2) :
    rendered { c with vars := vars₁ } f₁ file = rendered { c with vars := vars₂ } f₂ file := by
  have hrevealed : revealed f₁ c.ownReferences = revealed f₂ c.ownReferences := by
    apply List.map_congr_left
    intro r hr
    rw [hrefs r hr]
  show OrderedMap.insertAll _ (revealed f₁ c.ownReferences) =
    OrderedMap.insertAll _ (revealed f₂ c.ownReferences)
  rw [hrevealed]
  cases file with
  | none => rfl
  | some f =>
    simp only [Option.map_some, EnvFile.rendered_congr (h f rfl) (hfile f rfl)]

theorem keys_rendered_congr (f₁ f₂ : Text → Bytes) (file : Option EnvFile) :
    (rendered { c with vars := vars₁ } f₁ file).keys =
      (rendered { c with vars := vars₂ } f₂ file).keys := by
  have hrevealed : Entries.keys (revealed f₁ c.ownReferences) =
      Entries.keys (revealed f₂ c.ownReferences) := by
    unfold revealed Entries.keys
    rw [List.map_map, List.map_map]
    rfl
  -- references only change values, and so does the file but for its keys
  apply OrderedMap.keys_insertAll_congr hrevealed
  apply OrderedMap.keys_insertAll_congr _ rfl
  cases file with
  | none => rfl
  | some f =>
    show (f.rendered vars₁ f₁).keys = (f.rendered vars₂ f₂).keys
    rw [EnvFile.keys_rendered, EnvFile.keys_rendered]

end ChildEnvironment

/-! ## 3. Two runs -/

variable {α : Type} {ps : List Text}

/-- How two runs compare that differ in values only: they ask the same and end in the same way, and
when the values they use are the same, their results are too. -/
structure Unsteered (look₁ look₂ : Lookup) (sameUsed : Prop) (a₁ a₂ : Answer α) : Prop where
  asked : a₁.asked = a₂.asked
  alike : Alike a₁.outcome a₂.outcome
  outcome : (∀ p ∈ a₁.asked, look₁ p = look₂ p) → sameUsed → a₁.outcome = a₂.outcome

/-- Two runs whose results, if there are any, have the same keys in the same order. -/
def SameKeys (a₁ a₂ : Answer (OrderedMap Text Text)) : Prop :=
  ∀ m₁ m₂, a₁.outcome = .ok m₁ → a₂.outcome = .ok m₂ → m₁.keys = m₂.keys

theorem unsteered_refused (sameUsed : Prop) (e : Failure) :
    Unsteered look₁ look₂ sameUsed (⟨[], .error e⟩ : Answer α) ⟨[], .error e⟩ :=
  ⟨rfl, .error e, fun _ _ => rfl⟩

theorem SamePaths.has (hl : SamePaths look₁ look₂) {p : Text} (h : look₁.Has p) : look₂.Has p := by
  obtain ⟨b, hb⟩ := h
  have hp := hl p
  rw [hb] at hp
  generalize h₂ : look₂ p = y at hp
  cases hp with
  | ok _ c => exact ⟨c, h₂⟩

theorem SamePaths.error (hl : SamePaths look₁ look₂) {p : Text} {e : Failure}
    (h : look₁ p = .error e) : look₂ p = .error e := by
  have hp := hl p
  rw [h] at hp
  generalize look₂ p = y at hp ⊢
  cases hp with
  | error e => rfl

/-- Asking for the same paths takes the same course, whatever the values. -/
theorem unsteered_ask (hl : SamePaths look₁ look₂) {sameUsed : Prop} {b₁ b₂ : α}
    (h : sameUsed → (∀ p ∈ ps, look₁.value p = look₂.value p) → b₁ = b₂) :
    Unsteered look₁ look₂ sameUsed (look₁.ask ps b₁) (look₂.ask ps b₂) := by
  rcases all_ok_or_refusedAt look₁ ps with hps | ⟨e, before, p, after, rfl, hbefore, hp⟩
  -- the other source has the same paths, so both answer to all of them
  · rw [ask_of_has hps, ask_of_has fun p hp => hl.has (hps p hp)]
    refine ⟨rfl, .ok _ _, ?_⟩
    intro hlook hused
    apply congrArg Except.ok
    apply h hused
    intro p hp
    unfold Lookup.value
    rw [hlook p hp]
  -- both stop at the same path with the same failure
  · rw [ask_of_refused hbefore hp, ask_of_refused (fun q hq => hl.has (hbefore q hq)) (hl.error hp)]
    exact ⟨rfl, .error e, fun _ _ => rfl⟩

theorem sameKeys_ask {m₁ m₂ : OrderedMap Text Text} (h : m₁.keys = m₂.keys) :
    SameKeys (look₁.ask ps m₁) (look₂.ask ps m₂) := by
  intro n₁ n₂ h₁ h₂
  rw [(outcome_ask_eq_ok_iff.1 h₁).2, (outcome_ask_eq_ok_iff.1 h₂).2, h]

/-- A template is unsteered, if the values inside its paths agree. -/
theorem unsteered_inject (hl : SamePaths look₁ look₂) (hv : SameNames vars₁ vars₂) {v : Version}
    {s : Text} (h : ∀ t, Template.parse v s = .ok t → AgreeOn vars₁ vars₂ t.pathVariables) :
    Unsteered look₁ look₂
      (∀ t, Template.parse v s = .ok t → AgreeOn vars₁ vars₂ t.variableNames)
      (inject v vars₁ look₁ s) (inject v vars₂ look₂ s) := by
  -- the needs are the same, so both runs are refused or both ask
  have hsame := Template.needs_congr hv h
  cases hn : Template.needs v vars₁ s with
  | error e =>
    rw [Template.inject_of_needs_error hn, Template.inject_of_needs_error (hsame.symm.trans hn)]
    exact unsteered_refused _ e
  | ok ps =>
    obtain ⟨t, ht, hps, h₁⟩ := Template.inject_of_needs_ok look₁ hn
    obtain ⟨t', ht', -, h₂⟩ := Template.inject_of_needs_ok look₂ (hsame.symm.trans hn)
    obtain rfl := Except.ok.inj (ht.symm.trans ht')
    rw [h₁, h₂]
    apply unsteered_ask hl
    intro hused hlook
    apply Template.rendered_congr (hused t ht)
    intro p hp
    exact hlook p (hps ▸ mem_distinct.2 hp)

/-- An env file is unsteered, if the values inside its paths agree. -/
theorem unsteered_injectFile (hl : SamePaths look₁ look₂) (hv : SameNames vars₁ vars₂) {v : Version}
    {s : Text} (h : ∀ file, EnvFile.parse v s = .ok file → AgreeOn vars₁ vars₂ file.pathVariables) :
    Unsteered look₁ look₂
      (∀ file, EnvFile.parse v s = .ok file → AgreeOn vars₁ vars₂ file.variableNames)
      (injectFile v vars₁ look₁ s) (injectFile v vars₂ look₂ s) ∧
    SameKeys (injectFile v vars₁ look₁ s) (injectFile v vars₂ look₂ s) := by
  have hsame := EnvFile.needs_congr hv h
  cases hn : EnvFile.needs v vars₁ s with
  | error e =>
    rw [EnvFile.injectFile_of_needs_error hn,
      EnvFile.injectFile_of_needs_error (hsame.symm.trans hn)]
    exact ⟨unsteered_refused _ e, fun _ _ h₁ => by cases h₁⟩
  | ok ps =>
    obtain ⟨file, hf, hps, h₁⟩ := EnvFile.injectFile_of_needs_ok look₁ hn
    obtain ⟨file', hf', -, h₂⟩ :=
      EnvFile.injectFile_of_needs_ok look₂ (hsame.symm.trans hn)
    obtain rfl := Except.ok.inj (hf.symm.trans hf')
    rw [h₁, h₂]
    refine ⟨unsteered_ask hl ?_, sameKeys_ask ?_⟩
    · intro hused hlook
      apply EnvFile.rendered_congr (hused file hf)
      intro p hp
      exact hlook p (hps ▸ mem_distinct.2 hp)
    · rw [EnvFile.keys_rendered, EnvFile.keys_rendered]

/-- A child is unsteered, if the values inside the paths of its file agree. -/
theorem unsteered_resolve (hl : SamePaths look₁ look₂) (hv : SameNames vars₁ vars₂)
    {c : ChildEnvironment}
    (h : ∀ file, c.readFile = .ok (some file) → AgreeOn vars₁ vars₂ file.pathVariables) :
    Unsteered look₁ look₂
      (∀ file, c.readFile = .ok (some file) → AgreeOn vars₁ vars₂ file.variableNames)
      (ChildEnvironment.resolve { c with vars := vars₁ } look₁)
      (ChildEnvironment.resolve { c with vars := vars₂ } look₂) ∧
    SameKeys (ChildEnvironment.resolve { c with vars := vars₁ } look₁)
      (ChildEnvironment.resolve { c with vars := vars₂ } look₂) := by
  have hsame := ChildEnvironment.needs_congr hv h
  cases hn : ChildEnvironment.needs { c with vars := vars₁ } with
  | error e =>
    rw [ChildEnvironment.resolve_of_needs_error hn,
      ChildEnvironment.resolve_of_needs_error (hsame.symm.trans hn)]
    exact ⟨unsteered_refused _ e, fun _ _ h₁ => by cases h₁⟩
  | ok ps =>
    obtain ⟨file, hf, hps, h₁⟩ := ChildEnvironment.resolve_of_needs_ok look₁ hn
    obtain ⟨file', hf', -, h₂⟩ :=
      ChildEnvironment.resolve_of_needs_ok look₂ (hsame.symm.trans hn)
    -- the file is read without a look at the variables
    obtain rfl : file = file' := Except.ok.inj (hf.symm.trans hf')
    rw [h₁, h₂]
    refine ⟨unsteered_ask hl ?_, sameKeys_ask (ChildEnvironment.keys_rendered_congr _ _ _)⟩
    intro hused hlook
    apply ChildEnvironment.rendered_congr
    · rintro f rfl
      exact hused f hf
    · rintro f rfl p hp
      exact hlook p (hps ▸ ChildEnvironment.mem_demand_of_uses hp)
    · intro r hr
      have hr' := ChildEnvironment.mem_demand_of_reference (c := { c with vars := vars₁ }) hr file
      exact hlook r.2 (hps ▸ hr')

/-- Values do not steer. Two runs on the same text, env file or environment, with sources for the
same paths, with variables of the same names and with the same values inside paths, ask for the same
paths and succeed or fail alike, with results under the same keys. If the values they use are the
same, so are their results. -/
theorem values_do_not_steer {look₁ look₂ : Lookup} (hl : SamePaths look₁ look₂)
    {vars₁ vars₂ : Bindings} (hv : SameNames vars₁ vars₂) :
    (∀ v s, (∀ t, Template.parse v s = .ok t → AgreeOn vars₁ vars₂ t.pathVariables) →
      Unsteered look₁ look₂
        (∀ t, Template.parse v s = .ok t → AgreeOn vars₁ vars₂ t.variableNames)
        (inject v vars₁ look₁ s) (inject v vars₂ look₂ s)) ∧
    (∀ v s, (∀ file, EnvFile.parse v s = .ok file → AgreeOn vars₁ vars₂ file.pathVariables) →
      Unsteered look₁ look₂
        (∀ file, EnvFile.parse v s = .ok file → AgreeOn vars₁ vars₂ file.variableNames)
        (injectFile v vars₁ look₁ s) (injectFile v vars₂ look₂ s) ∧
      SameKeys (injectFile v vars₁ look₁ s) (injectFile v vars₂ look₂ s)) ∧
    ∀ c : ChildEnvironment,
      (∀ file, c.readFile = .ok (some file) → AgreeOn vars₁ vars₂ file.pathVariables) →
      Unsteered look₁ look₂
        (∀ file, c.readFile = .ok (some file) → AgreeOn vars₁ vars₂ file.variableNames)
        (ChildEnvironment.resolve { c with vars := vars₁ } look₁)
        (ChildEnvironment.resolve { c with vars := vars₂ } look₂) ∧
      SameKeys (ChildEnvironment.resolve { c with vars := vars₁ } look₁)
        (ChildEnvironment.resolve { c with vars := vars₂ } look₂) := by
  refine ⟨?_, ?_, ?_⟩
  · intro v s h
    exact unsteered_inject hl hv h
  · intro v s h
    exact unsteered_injectFile hl hv h
  · intro c h
    exact unsteered_resolve hl hv h

/-- Neither a variable nor a secret that looks like a tag makes for another question. -/
theorem values_do_not_steer_tag_like_values :
    let source : Text → Lookup := fun secret p =>
      if p = "a/p".toList then .ok (Text.utf8 secret) else .error (.secretNotFound p)
    let vars : Text → Bindings := fun y => OrderedMap.ofList [("x".toList, "a".toList), ("y".toList, y)]
    let s := "${y}|{{ ${x}/p }}".toList
    let a₁ := inject .v2 (vars "b".toList) (source "c".toList) s
    let a₂ := inject .v2 (vars "{{ b }}".toList) (source "secretinject://c".toList) s
    SamePaths (source "c".toList) (source "secretinject://c".toList) ∧
      SameNames (vars "b".toList) (vars "{{ b }}".toList) ∧
      a₁.asked = a₂.asked ∧ Alike a₁.outcome a₂.outcome := by
  have hparse : Template.parse .v2 "${y}|{{ ${x}/p }}".toList =
      .ok ⟨[.var ⟨"y".toList, "${y}".toList⟩, .literal "|".toList,
        .secret (.pattern [.var ⟨"x".toList, "${x}".toList⟩, .text "/p".toList])
          "{{ ${x}/p }}".toList]⟩ := by decide +kernel
  intro source vars s a₁ a₂
  have hl : SamePaths (source "c".toList) (source "secretinject://c".toList) := by
    intro p
    by_cases hp : p = "a/p".toList
    · simp only [source, hp, if_true]
      exact .ok _ _
    · simp only [source, hp, if_false]
      exact .error _
  have hv : SameNames (vars "b".toList) (vars "{{ b }}".toList) := SameNames.of_keys_eq rfl
  have hagree : ∀ t, Template.parse .v2 s = .ok t →
      AgreeOn (vars "b".toList) (vars "{{ b }}".toList) t.pathVariables := by
    intro t ht
    obtain rfl := Except.ok.inj (hparse.symm.trans ht)
    show ∀ n ∈ ["x".toList], (vars "b".toList).get? n = (vars "{{ b }}".toList).get? n
    decide
  have h := (values_do_not_steer hl hv).1 .v2 s hagree
  refine ⟨hl, hv, ?_, ?_⟩
  · exact h.asked
  · exact h.alike

end SecretWeave
