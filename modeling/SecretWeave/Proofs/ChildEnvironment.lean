import SecretWeave.ChildEnvironment
import SecretWeave.Proofs.EnvFile

/-!
# What a child's environment demands

The inherited references and the env file are looked at first. Then all paths are asked for at once,
those of the references before those of the file, and the layers are put together
(`resolve_of_needs_ok`).
-/

namespace SecretWeave

namespace ChildEnvironment

/-! ## 1. References -/

def referencesOf (es : List (Text × Text)) : List (Text × Text) :=
  es.filterMap fun e => (reference? e.2).map fun path => (e.1, path)

variable {es rs : List (Text × Text)}

theorem referencesOf_cons_none {key value : Text} (h : reference? value = none) :
    referencesOf ((key, value) :: es) = referencesOf es := by
  unfold referencesOf
  rw [List.filterMap_cons_none]
  rw [h]
  rfl

theorem referencesOf_cons_some {key value path : Text} (h : reference? value = some path) :
    referencesOf ((key, value) :: es) = (key, path) :: referencesOf es := by
  unfold referencesOf
  rw [List.filterMap_cons_some]
  rw [h]
  rfl

/-- References are taken as they are when all hold paths, and else the first that does not is at
fault. -/
theorem references_eq (es : List (Text × Text)) :
    references es = match (referencesOf es).find? (fun r => !Text.isPath r.2) with
      | some r => .error (.template (.badPath r.2))
      | none => .ok (referencesOf es) := by
  induction es with
  | nil => rfl
  | cons entry es ih =>
    obtain ⟨key, value⟩ := entry
    rw [references]
    cases hr : reference? value with
    -- the entry is no reference and is passed over on both sides
    | none => rw [referencesOf_cons_none hr, ← ih]
    | some path =>
      rw [referencesOf_cons_some hr, List.find?_cons]
      cases hp : Text.isPath path with
      | false => simp [checkPath, hp]
      | true =>
        simp only [checkPath, hp, if_true, ih]
        cases (referencesOf es).find? (fun r => !Text.isPath r.2) <;> simp

/-! ## 2. Layers -/

def revealed (values : Text → Bytes) (rs : List (Text × Text)) : List (Text × Text) :=
  rs.map fun r => (r.1, Text.decode (values r.2))

/-- Storing references is storing their secrets, where every one of them was fetched. -/
theorem storeReferences_eq {values : Secrets} {g : Text → Bytes}
    (h : ∀ r ∈ rs, values.get? r.2 = some (g r.2)) (m : OrderedMap Text Text) :
    storeReferences values m rs = m.insertAll (revealed g rs) := by
  unfold storeReferences OrderedMap.insertAll revealed
  rw [List.foldl_map]
  -- both folds store the same, one reference after the other
  induction rs generalizing m with
  | nil => rfl
  | cons r rs ih =>
    rw [List.foldl_cons, List.foldl_cons, h r (by simp)]
    exact ih (fun x hx => h x (by simp [hx])) _

variable (c : ChildEnvironment)

/-- The inherited references of a child, in the order of its environment. -/
def ownReferences : List (Text × Text) :=
  referencesOf (OrderedMap.ofList c.inherited).entries

def readFile : Except Fault (Option EnvFile) :=
  match c.envFile with
  | none => .ok none
  | some s => (EnvFile.parse c.version s).map some

/-- The distinct paths that a child needs: those of its references and then those of its file. -/
def demand (file : Option EnvFile) : List Text :=
  distinct (c.ownReferences.map Prod.snd ++ (file.map (EnvFile.demand c.vars)).getD [])

def rendered (values : Text → Bytes) (file : Option EnvFile) : OrderedMap Text Text :=
  let entries := (file.map fun f => (f.rendered c.vars values).entries).getD []
  ((OrderedMap.ofList c.inherited).insertAll entries).insertAll (revealed values c.ownReferences)

variable {c}

theorem mem_demand_of_reference {r : Text × Text} (h : r ∈ c.ownReferences)
    (file : Option EnvFile) : r.2 ∈ c.demand file :=
  mem_distinct.2 (List.mem_append_left _ (List.mem_map_of_mem h))

theorem mem_demand_of_uses {f : EnvFile} {p : Text} (h : p ∈ f.uses c.vars) :
    p ∈ c.demand (some f) :=
  mem_distinct.2 (List.mem_append_right _ (mem_distinct.2 h))

/-- With all secrets at hand the layers are put together without a failure. -/
theorem layers_filled {file : Option EnvFile} {values : Secrets} {g : Text → Bytes}
    (h : ∀ p ∈ c.demand file, values.get? p = some (g p)) :
    layers (OrderedMap.ofList c.inherited) (file.map (EnvFile.filled c.vars)) c.ownReferences values =
      .ok (c.rendered g file) := by
  have hrefs : ∀ r ∈ c.ownReferences, values.get? r.2 = some (g r.2) := fun r hr =>
    h r.2 (mem_demand_of_reference hr file)
  cases file with
  | none => exact congrArg Except.ok (storeReferences_eq hrefs _)
  | some f =>
    rw [Option.map_some, layers, EnvFile.resolve_filled fun p hp => h p (mem_demand_of_uses hp)]
    exact congrArg Except.ok (storeReferences_eq hrefs _)

/-! ## 3. Resolving -/

variable (c) in
def fileNeeds : Except Failure (List Text) :=
  match c.envFile with
  | none => .ok []
  | some s => EnvFile.needs c.version c.vars s

variable (c) in
/-- The distinct paths that a child needs, those of its references before those of its file, if the
file can be read and filled and all references hold paths. -/
def needs : Except Failure (List Text) :=
  match c.fileNeeds with
  | .error e => .error e
  | .ok ps =>
    match c.ownReferences.find? (fun r => !Text.isPath r.2) with
    | some r => .error (.template (.badPath r.2))
    | none => .ok (distinct (c.ownReferences.map Prod.snd ++ ps))

variable {look : Lookup} {ps : List Text} {e : Failure}

theorem file_of_fileNeeds_error (h : c.fileNeeds = .error e) : c.file = .error e := by
  unfold fileNeeds at h
  unfold file
  cases hs : c.envFile with
  | none => simp only [hs] at h; cases h
  | some s =>
    simp only [hs] at h
    simp only [EnvFile.prepareFile_of_needs_error h]

/-- The needs of a file are those of a file that can be read and filled, or none without a file. -/
theorem file_of_fileNeeds_ok (h : c.fileNeeds = .ok ps) :
    ∃ f, c.readFile = .ok f ∧ c.file = .ok (f.map (EnvFile.filled c.vars)) ∧
      ps = (f.map (EnvFile.demand c.vars)).getD [] := by
  unfold fileNeeds at h
  unfold file readFile
  cases hs : c.envFile with
  | none =>
    simp only [hs] at h
    exact ⟨none, rfl, rfl, (Except.ok.inj h).symm⟩
  | some s =>
    simp only [hs] at h
    obtain ⟨f, hp, hprep, rfl⟩ := EnvFile.prepareFile_of_needs_ok h
    refine ⟨some f, ?_, ?_, rfl⟩
    · simp only [hp]
      rfl
    · simp only [hprep]
      rfl

/-- Without needs there is no question to a source: the failure is answered as it is. -/
theorem resolve_of_needs_error (h : c.needs = .error e) : c.resolve look = ⟨[], .error e⟩ := by
  unfold needs at h
  cases hf : c.fileNeeds with
  | error e' =>
    simp only [hf] at h
    obtain rfl := Except.error.inj h
    -- the file is looked at before the references
    rw [resolve, file_of_fileNeeds_error hf]
    rfl
  | ok ps =>
    obtain ⟨f, -, hfile, -⟩ := file_of_fileNeeds_ok hf
    cases hr : c.ownReferences.find? (fun r => !Text.isPath r.2) with
    | none => simp only [hf, hr] at h; cases h
    | some r =>
      simp only [hf, hr] at h
      obtain rfl := Except.error.inj h
      rw [resolve, hfile]
      simp only [references_eq]
      rw [← ownReferences, hr]
      rfl

/-- A child whose needs are known is asked for, and its layers are put together. -/
theorem resolve_of_needs_ok (look : Lookup) (h : c.needs = .ok ps) :
    ∃ f, c.readFile = .ok f ∧ ps = c.demand f ∧
      c.resolve look = look.ask ps (c.rendered look.value f) := by
  unfold needs at h
  cases hf : c.fileNeeds with
  | error e => simp only [hf] at h; cases h
  | ok qs =>
    obtain ⟨f, hread, hfile, rfl⟩ := file_of_fileNeeds_ok hf
    cases hr : c.ownReferences.find? (fun r => !Text.isPath r.2) with
    | some r => simp only [hf, hr] at h; cases h
    | none =>
      simp only [hf, hr] at h
      obtain rfl := Except.ok.inj h
      refine ⟨f, hread, rfl, ?_⟩
      rw [resolve, hfile]
      simp only [references_eq]
      rw [← ownReferences, hr]
      -- what is collected from the filled file is what the file needs
      have hsecrets : ((f.map (EnvFile.filled c.vars)).map EnvFile.secrets).getD [] =
          (f.map (EnvFile.demand c.vars)).getD [] := by
        cases f with
        | none => rfl
        | some f => exact EnvFile.secrets_filled c.vars f
      simp only [hsecrets]
      apply fetch_andThen_eq_ask
      intro values hvalues
      exact layers_filled hvalues

end ChildEnvironment

end SecretWeave
