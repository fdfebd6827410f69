import SecretWeave.Proofs.ChildEnvironment
import SecretWeave.Proofs.Storing

/-!
# The layers of a child's environment

What a child finds under a key is the secret that is referred to there, else what the env file says,
else what is inherited; and the keys keep the order in which they came, inherited ones first. When
the layers cannot be put together, the env file is to blame before references are, and these before
the source (`resolve_layers`).
-/

namespace SecretWeave

namespace ChildEnvironment

variable {c : ChildEnvironment} {look : Lookup}

/-! ## 1. Inherited references -/

theorem reference?_eq_some_iff {value p : Text} :
    reference? value = some p ↔ value = referenceStart ++ p :=
  Text.after?_eq_some_iff

variable (c) in
/-- The path under a key, if what is inherited there refers to a secret. -/
def path? (k : Text) : Option Text :=
  (Entries.last? k c.inherited).bind reference?

variable (c) in
/-- The paths of the inherited references, in the order in which the keys first came. -/
def referencePaths : List Text :=
  (distinct (Entries.keys c.inherited)).filterMap c.path?

/-- A key has a path exactly if its last inherited value is the reference mark with that path. -/
theorem path?_eq_some_iff {k p : Text} :
    c.path? k = some p ↔ Entries.last? k c.inherited = some (referenceStart ++ p) := by
  simp only [path?, Option.bind_eq_some_iff, reference?_eq_some_iff]
  constructor
  · rintro ⟨v, hv, rfl⟩
    exact hv
  · intro h
    exact ⟨_, h, rfl⟩

/-- The inherited references are those of the keys in the order in which these first came. -/
theorem ownReferences_eq (c : ChildEnvironment) :
    c.ownReferences =
      (distinct (Entries.keys c.inherited)).filterMap fun k => (c.path? k).map (k, ·) := by
  rw [ownReferences, OrderedMap.entries_eq_filterMap, OrderedMap.keys_ofList, referencesOf,
    List.filterMap_filterMap]
  apply List.filterMap_congr
  intro k _
  rw [OrderedMap.get?_ofList, path?]
  cases Entries.last? k c.inherited <;> rfl

theorem map_snd_ownReferences (c : ChildEnvironment) :
    c.ownReferences.map Prod.snd = c.referencePaths := by
  rw [ownReferences_eq, List.map_filterMap, referencePaths]
  apply List.filterMap_congr
  intro k _
  cases c.path? k <;> rfl

theorem revealed_ownReferences (g : Text → Bytes) :
    revealed g c.ownReferences = (distinct (Entries.keys c.inherited)).filterMap fun k =>
      ((c.path? k).map fun p => Text.decode (g p)).map (k, ·) := by
  rw [revealed, ownReferences_eq, List.map_filterMap]
  apply List.filterMap_congr
  intro k _
  cases c.path? k <;> rfl

/-- A key with a reference is given its secret, any other key nothing. -/
theorem last?_revealed (g : Text → Bytes) (k : Text) :
    Entries.last? k (revealed g c.ownReferences) = (c.path? k).map fun p => Text.decode (g p) := by
  rw [revealed_ownReferences, Entries.last?_filterMap]
  by_cases hk : k ∈ Entries.keys c.inherited
  · rw [if_pos (mem_distinct.2 hk)]
  · -- nothing is inherited under the key, so no reference either
    rw [if_neg (mem_distinct.not.2 hk), path?, Entries.last?_eq_none_iff.2 hk]
    rfl

theorem mem_keys_of_revealed {g : Text → Bytes} {k : Text}
    (h : k ∈ Entries.keys (revealed g c.ownReferences)) : k ∈ Entries.keys c.inherited := by
  by_cases hk : k ∈ Entries.keys c.inherited
  · exact hk
  · have hnone : Entries.last? k (revealed g c.ownReferences) = none := by
      rw [last?_revealed, path?, Entries.last?_eq_none_iff.2 hk]
      rfl
    exact absurd h (Entries.last?_eq_none_iff.1 hnone)

/-! ## 2. Layers put together -/

/-- What the env file adds to a child's environment: nothing, or the values it has when it is
injected by itself, under its own keys. -/
def FileGives (c : ChildEnvironment) (look : Lookup) (given : OrderedMap Text Text) : Prop :=
  match c.envFile with
  | none => given = ∅
  | some s =>
    (injectFile c.version c.vars look s).outcome = .ok given ∧
      ∃ file, EnvFile.parse c.version s = .ok file ∧ given.keys = file.entries.keys

/-- An environment in which references stand above what the env file gives, and that above what is
inherited. -/
structure Layered (c : ChildEnvironment) (look : Lookup) (given env : OrderedMap Text Text) :
    Prop where
  /-- The inherited keys come first, each where it first came, and then the new keys of the file. -/
  keys : env.keys =
    distinct (Entries.keys c.inherited) ++ given.keys.filter (· ∉ Entries.keys c.inherited)
  /-- A key that last was inherited with a reference holds the secret, whatever the file says. -/
  referred : ∀ k p, Entries.last? k c.inherited = some (referenceStart ++ p) →
    ∃ b, look p = .ok b ∧ env.get? k = some (Text.decode b)
  /-- Any other key holds what the file gives as it is, or else what was inherited last. -/
  plain : ∀ k, (∀ p, Entries.last? k c.inherited ≠ some (referenceStart ++ p)) →
    env.get? k = (given.get? k).or (Entries.last? k c.inherited)

variable (c) in
def givenBy (g : Text → Bytes) (file : Option EnvFile) : OrderedMap Text Text :=
  (file.map (EnvFile.rendered c.vars g)).getD ∅

theorem rendered_eq_insertAll (g : Text → Bytes) (file : Option EnvFile) :
    c.rendered g file =
      ((OrderedMap.ofList c.inherited).insertAll (c.givenBy g file).entries).insertAll
        (revealed g c.ownReferences) := by
  cases file <;> rfl

/-- The keys of the environment: first the inherited ones, then the new ones of the file. -/
theorem keys_rendered (g : Text → Bytes) (file : Option EnvFile) :
    (c.rendered g file).keys = distinct (Entries.keys c.inherited) ++
      (c.givenBy g file).keys.filter (· ∉ Entries.keys c.inherited) := by
  have hfile : ((OrderedMap.ofList c.inherited).insertAll (c.givenBy g file).entries).keys =
      distinct (Entries.keys c.inherited) ++
        (c.givenBy g file).keys.filter (· ∉ Entries.keys c.inherited) := by
    rw [OrderedMap.keys_insertAll, OrderedMap.keys_ofList,
      distinct_of_nodup (c.givenBy g file).nodup]
    simp only [mem_distinct]
    rfl
  rw [rendered_eq_insertAll, OrderedMap.keys_insertAll_of_mem, hfile]
  -- references stand under inherited keys and add none
  intro k hk
  rw [hfile, List.mem_append, mem_distinct]
  exact .inl (mem_keys_of_revealed hk)

theorem get?_rendered (g : Text → Bytes) (file : Option EnvFile) (k : Text) :
    (c.rendered g file).get? k = ((c.path? k).map fun p => Text.decode (g p)).or
      (((c.givenBy g file).get? k).or (Entries.last? k c.inherited)) := by
  rw [rendered_eq_insertAll, OrderedMap.get?_insertAll, OrderedMap.get?_insertAll,
    OrderedMap.get?_ofList, OrderedMap.last?_entries, last?_revealed]

theorem mem_demand_of_path? {k p : Text} (h : c.path? k = some p) (file : Option EnvFile) :
    p ∈ c.demand file := by
  have hk : k ∈ Entries.keys c.inherited := by
    rw [← not_not (a := k ∈ _), ← Entries.last?_eq_none_iff, path?_eq_some_iff.1 h]
    simp
  rw [demand, map_snd_ownReferences, mem_distinct, List.mem_append]
  exact .inl (List.mem_filterMap.2 ⟨k, mem_distinct.2 hk, h⟩)

/-- The environment that is put together has the three layers in their order. -/
theorem layered_rendered {file : Option EnvFile} (h : ∀ p ∈ c.demand file, look.Has p) :
    c.Layered look (c.givenBy look.value file) (c.rendered look.value file) where
  keys := keys_rendered _ _
  referred := by
    intro k p hp
    rw [← path?_eq_some_iff] at hp
    obtain ⟨b, hb⟩ := h p (mem_demand_of_path? hp file)
    refine ⟨b, hb, ?_⟩
    rw [get?_rendered, hp, Option.map_some, Option.some_or, Lookup.value_eq hb]
  plain := by
    intro k hk
    have hnone : c.path? k = none := by
      rw [Option.eq_none_iff_forall_ne_some]
      intro p hp
      exact hk p (path?_eq_some_iff.1 hp)
    rw [get?_rendered, hnone, Option.map_none, Option.none_or]

/-- The file by itself asks for no more than the child, so it is injected if the child is. -/
theorem fileGives_givenBy {ps : List Text} {file : Option EnvFile} (hn : c.fileNeeds = .ok ps)
    (hread : c.readFile = .ok file) (h : ∀ p ∈ c.demand file, look.Has p) :
    c.FileGives look (c.givenBy look.value file) := by
  unfold FileGives
  unfold fileNeeds at hn
  unfold readFile at hread
  cases hs : c.envFile with
  | none =>
    simp only [hs] at hread
    obtain rfl := Except.ok.inj hread
    rfl
  | some s =>
    simp only [hs] at hn hread
    obtain ⟨f, hf, hps, hask⟩ := EnvFile.injectFile_of_needs_ok look hn
    simp only [hf] at hread
    obtain rfl := Except.ok.inj hread
    refine ⟨?_, f, hf, OrderedMap.keys_mapValues _ _⟩
    -- the paths of the file are among those of the child, which all have values
    rw [hask, outcome_ask_eq_ok_iff]
    refine ⟨?_, rfl⟩
    intro p hp
    rw [hps] at hp
    exact h p (mem_demand_of_uses (mem_distinct.1 hp))

/-! ## 3. What can go wrong -/

inductive FailsWith (c : ChildEnvironment) (look : Lookup) : Failure → Prop
  /-- The env file cannot be read or filled, which is also what it fails with by itself. -/
  | file {s : Text} {e : Failure} (hs : c.envFile = some s)
      (hprepare : prepareFile c.version c.vars s = .error e)
      (halone : injectFile c.version c.vars look s = .fail e) : FailsWith c look e
  /-- The file is in order; the first inherited reference that holds no path is at fault. -/
  | reference {file : Option EnvFile} {p : Text} (hfile : c.file = .ok file)
      (hp : c.referencePaths.find? (fun p => !Text.isPath p) = some p) :
      FailsWith c look (.template (.badPath p))
  /-- All are in order; of the paths of the references and then of the file, each taken once, the
  first that has no value is at fault. -/
  | lookup {file : Option EnvFile} {e : Failure} (hfile : c.file = .ok file)
      (hpaths : ∀ p ∈ c.referencePaths, Text.isPath p = true)
      (hlook : RefusedAt look
        (distinct (c.referencePaths ++ (file.map EnvFile.secrets).getD [])) e) :
      FailsWith c look e

theorem find?_ownReferences (c : ChildEnvironment) :
    (c.ownReferences.find? fun r => !Text.isPath r.2).map Prod.snd =
      c.referencePaths.find? fun p => !Text.isPath p := by
  rw [← map_snd_ownReferences, List.find?_map]
  rfl

theorem needs_of_bad_reference {ps : List Text} {p : Text} (hf : c.fileNeeds = .ok ps)
    (hp : c.referencePaths.find? (fun p => !Text.isPath p) = some p) :
    c.needs = .error (.template (.badPath p)) := by
  rw [← find?_ownReferences, Option.map_eq_some_iff] at hp
  obtain ⟨r, hr, rfl⟩ := hp
  simp only [needs, hf, hr]

theorem needs_of_paths {ps : List Text} (hf : c.fileNeeds = .ok ps)
    (hp : c.referencePaths.find? (fun p => !Text.isPath p) = none) :
    c.needs = .ok (distinct (c.referencePaths ++ ps)) := by
  rw [← find?_ownReferences, Option.map_eq_none_iff] at hp
  simp only [needs, hf, hp, map_snd_ownReferences]

theorem file_eq_error_iff {e : Failure} :
    c.file = .error e ↔ ∃ s, c.envFile = some s ∧ prepareFile c.version c.vars s = .error e := by
  unfold file
  cases c.envFile with
  | none => simp
  | some s =>
    simp only [Option.some.injEq, exists_eq_left']
    cases prepareFile c.version c.vars s <;> simp

variable {file : Option EnvFile} {e : Failure}

/-- A file that is out of order is the failure, whatever the references are. -/
theorem failsWith_of_file_error {e' : Failure} (h : c.file = .error e') :
    c.FailsWith look e ↔ e' = e := by
  constructor
  · intro hfail
    cases hfail with
    | file hs hprepare =>
      rw [file_eq_error_iff.2 ⟨_, hs, hprepare⟩] at h
      exact (Except.error.inj h).symm
    | reference hfile => cases h.symm.trans hfile
    | lookup hfile => cases h.symm.trans hfile
  · rintro rfl
    obtain ⟨s, hs, hprepare⟩ := file_eq_error_iff.1 h
    exact .file hs hprepare (by rw [injectFile, hprepare])

/-- Behind a file in order, the first reference without a path is the failure. -/
theorem failsWith_of_bad_reference {p : Text} (hfile : c.file = .ok file)
    (hp : c.referencePaths.find? (fun p => !Text.isPath p) = some p) :
    c.FailsWith look e ↔ .template (.badPath p) = e := by
  constructor
  · intro hfail
    cases hfail with
    | file hs hprepare => cases hfile.symm.trans (file_eq_error_iff.2 ⟨_, hs, hprepare⟩)
    | reference _ hp' => rw [Option.some.inj (hp.symm.trans hp')]
    | lookup _ hpaths =>
      have hbad := List.find?_some (p := fun p => !Text.isPath p) hp
      rw [hpaths p (List.mem_of_find?_eq_some hp)] at hbad
      cases hbad
  · rintro rfl
    exact .reference hfile hp

/-- With nothing wrong in the input, the first path without a value is the failure. -/
theorem failsWith_of_paths (hfile : c.file = .ok file)
    (hp : c.referencePaths.find? (fun p => !Text.isPath p) = none) :
    c.FailsWith look e ↔
      RefusedAt look (distinct (c.referencePaths ++ (file.map EnvFile.secrets).getD [])) e := by
  constructor
  · intro hfail
    cases hfail with
    | file hs hprepare => cases hfile.symm.trans (file_eq_error_iff.2 ⟨_, hs, hprepare⟩)
    | reference _ hp' => cases hp.symm.trans hp'
    | lookup hfile' _ hlook =>
      obtain rfl := Except.ok.inj (hfile.symm.trans hfile')
      exact hlook
  · intro hlook
    refine .lookup hfile ?_ hlook
    simpa using List.find?_eq_none.1 hp

theorem map_secrets_filled (f : Option EnvFile) :
    ((f.map (EnvFile.filled c.vars)).map EnvFile.secrets).getD [] =
      (f.map (EnvFile.demand c.vars)).getD [] := by
  cases f with
  | none => rfl
  | some f => exact EnvFile.secrets_filled c.vars f

/-- Putting the layers together goes wrong for the reasons given above and no others. Otherwise the
environment has the layers as they should be. -/
theorem resolve_layers (c : ChildEnvironment) (look : Lookup) :
    (∀ env, (c.resolve look).outcome = .ok env →
      ∃ given, c.FileGives look given ∧ c.Layered look given env) ∧
    ∀ e, (c.resolve look).outcome = .error e ↔ c.FailsWith look e := by
  -- what can be wrong is found in this order: the file, the references, the source
  cases hneeds : c.fileNeeds with
  | error e' =>
    have hneeds' : c.needs = .error e' := by simp only [needs, hneeds]
    rw [resolve_of_needs_error hneeds']
    constructor
    · intro env h
      cases h
    · intro e
      simp only [failsWith_of_file_error (file_of_fileNeeds_error hneeds), Except.error.injEq]
  | ok ps =>
    obtain ⟨f, hread, hfile, rfl⟩ := file_of_fileNeeds_ok hneeds
    cases hp : c.referencePaths.find? (fun p => !Text.isPath p) with
    | some p =>
      rw [resolve_of_needs_error (needs_of_bad_reference hneeds hp)]
      constructor
      · intro env h
        cases h
      · intro e
        simp only [failsWith_of_bad_reference hfile hp, Except.error.injEq]
    | none =>
      obtain ⟨f', hread', hdemand, hask⟩ := resolve_of_needs_ok look (needs_of_paths hneeds hp)
      obtain rfl := Except.ok.inj (hread.symm.trans hread')
      rw [hask]
      constructor
      · intro env h
        obtain ⟨hhas, rfl⟩ := outcome_ask_eq_ok_iff.1 h
        rw [hdemand] at hhas
        exact ⟨_, fileGives_givenBy hneeds hread hhas, layered_rendered hhas⟩
      · intro e
        rw [outcome_ask_eq_error_iff, failsWith_of_paths hfile hp, map_secrets_filled]

end ChildEnvironment

end SecretWeave
