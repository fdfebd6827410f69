import SecretWeave.Proofs.OrderedMap
import SecretWeave.Proofs.Template.Grammar
import SecretWeave.Proofs.Template.Rendering

/-!
# What an env file demands and renders

An env file is filled, asked for and rendered template by template, in the order of its entries, and
all its paths are asked for at once (`injectFile_of_needs_ok`).
-/

namespace SecretWeave

/-! ## 1. Why a file cannot be read -/

inductive Fault.OfSyntax : Fault → Prop
  | unclosedTag (closer : Text) : OfSyntax (.unclosedTag closer)
  | badPath (path : Text) : OfSyntax (.badPath path)
  | badName (name : Text) : OfSyntax (.badName name)
  | notKeyValue : OfSyntax .notKeyValue

namespace EnvFile

variable {v : Version} {s : Text} {f : Fault}

theorem ofSyntax_of_parse (h : Template.parse v s = .error f) : f.root.OfSyntax := by
  rcases Template.root_of_parse h with ⟨p, hp⟩ | ⟨c, hc⟩
  · rw [hp]
    exact .badPath p
  · rw [hc]
    exact .unclosedTag c

/-- What is wrong with a line is wrong with its text. -/
theorem ofSyntax_of_readLine (h : readLine v s = .error f) : f.root.OfSyntax := by
  unfold readLine at h
  split at h
  · cases h
  · cases h
  · split at h
    -- there is no equals sign
    · obtain rfl := Except.error.inj h
      exact .notKeyValue
    · dsimp only at h
      split at h
      -- the key is no identifier
      · rename_i g hg
        obtain rfl := Except.error.inj h
        unfold checkName at hg
        split at hg
        · cases hg
        · obtain rfl := Except.error.inj hg
          exact .badName _
      · split at h
        -- the value is no template
        · rename_i g hg
          obtain rfl := Except.error.inj h
          exact ofSyntax_of_parse hg
        · cases h

theorem ofSyntax_of_readLines {n : Nat} {m : OrderedMap Text Template} {ls : List Text}
    (h : readLines v n m ls = .error f) : f.root.OfSyntax := by
  induction ls generalizing n m with
  | nil => cases h
  | cons line ls ih =>
    rw [readLines] at h
    split at h
    · rename_i g hg
      obtain rfl := Except.error.inj h
      rw [Fault.root_atLine]
      exact ofSyntax_of_readLine hg
    · exact ih h
    · exact ih h

/-- A file that is written in neither way is at fault as lines are. -/
theorem ofSyntax_of_parseFile (h : parse v s = .error f) : f.root.OfSyntax := by
  unfold parse at h
  split at h
  · cases h
  · rename_i g hg
    split at h
    · cases h
    -- what is wrong with it as a document is not reported
    · obtain rfl := Except.error.inj h
      unfold parseLines at hg
      split at hg
      · rename_i g' hg'
        obtain rfl := Except.error.inj hg
        exact ofSyntax_of_readLines hg'
      · cases hg

/-! ## 2. Filling -/

/-- The paths that a file looks up once its variables are replaced, with repetitions. -/
def uses (vars : Bindings) (file : EnvFile) : List Text :=
  file.entries.values.flatMap (Template.uses vars)

def demand (vars : Bindings) (file : EnvFile) : List Text :=
  distinct (file.uses vars)

def rendered (vars : Bindings) (values : Text → Bytes) (file : EnvFile) : OrderedMap Text Text :=
  file.entries.mapValues (Template.rendered vars values)

def filled (vars : Bindings) (file : EnvFile) : EnvFile :=
  ⟨file.format, file.entries.mapValues (Template.filled vars)⟩

variable {vars : Bindings} {file : EnvFile}

/-- A file can be filled exactly if all of its templates can, and then it is filled template by
template. -/
theorem inject_eq_ok_iff {file' : EnvFile} :
    file.inject vars = .ok file' ↔
      (∀ t ∈ file.entries.values, (∀ n ∈ vars.keys, Text.isName n = true) ∧
        ∀ s ∈ t.segments, s.Fillable vars) ∧ file' = file.filled vars := by
  have hone : ∀ t ∈ file.entries.values, ∀ t', t.inject vars = .ok t' ↔
      ((∀ n ∈ vars.keys, Text.isName n = true) ∧ ∀ s ∈ t.segments, s.Fillable vars) ∧
        t.filled vars = t' := by
    intro t _ t'
    rw [Template.inject_eq_ok_iff, and_assoc]
    simp only [eq_comm]
  unfold inject
  -- the format is kept, so all is said about the entries
  cases htr : file.entries.traverse (Template.inject vars) with
  | error g =>
    constructor
    · intro h
      cases h
    · rintro ⟨h, -⟩
      cases htr.symm.trans ((OrderedMap.traverse_eq_ok_iff hone).2 ⟨h, rfl⟩)
  | ok m =>
    obtain ⟨hgood, rfl⟩ := (OrderedMap.traverse_eq_ok_iff hone).1 htr
    constructor
    · intro h
      exact ⟨hgood, (Except.ok.inj h).symm⟩
    · rintro ⟨-, rfl⟩
      rfl

theorem exists_inject_of_mem {t : Template} {file' : EnvFile} (h : file.inject vars = .ok file')
    (ht : t ∈ file.entries.values) : ∃ t', t.inject vars = .ok t' := by
  obtain ⟨hgood, -⟩ := inject_eq_ok_iff.1 h
  obtain ⟨hnames, hfill⟩ := hgood t ht
  exact ⟨_, Template.inject_eq_ok_iff.2 ⟨hnames, hfill, rfl⟩⟩

/-- What keeps a file from being filled keeps one of its templates from it. -/
theorem fault_of_inject (h : file.inject vars = .error f) :
    ∃ t ∈ file.entries.values, t.inject vars = .error f := by
  unfold inject at h
  split at h
  · rename_i g hg
    obtain rfl := Except.error.inj h
    exact (OrderedMap.traverse_eq_error_iff.1 hg).exists_mem
  · cases h

/-- A filled file looks up what the file demands with these variables. -/
theorem secrets_filled (vars : Bindings) (file : EnvFile) :
    (file.filled vars).secrets = file.demand vars := by
  unfold secrets filled demand uses
  rw [OrderedMap.values_mapValues, List.flatMap_map]
  congr 2
  funext t
  exact Template.lookups_filled vars t

/-- With all secrets at hand a filled file is resolved without a failure. -/
theorem resolve_filled {values : Secrets} {g : Text → Bytes}
    (h : ∀ p ∈ file.uses vars, values.get? p = some (g p)) :
    (file.filled vars).resolve values = .ok (file.rendered vars g) := by
  -- each template finds all the paths it uses among those of the file
  apply OrderedMap.traverse_mapValues
  intro t ht
  exact Template.resolve_filled fun p hp => h p (List.mem_flatMap.2 ⟨t, ht, hp⟩)

/-! ## 3. Injecting -/

/-- The distinct paths that a file needs, in order of first use, if it can be read and filled. -/
def needs (v : Version) (vars : Bindings) (s : Text) : Except Failure (List Text) :=
  match parse v s with
  | .error g => .error (.template g)
  | .ok file =>
    match file.inject vars with
    | .error g => .error (.ofUsage g)
    | .ok _ => .ok (file.demand vars)

variable {look : Lookup} {e : Failure} {ps : List Text}

/-- What leaves a file without needs is what keeps it from being prepared. -/
theorem prepareFile_of_needs_error (h : needs v vars s = .error e) :
    prepareFile v vars s = .error e := by
  unfold needs at h
  unfold prepareFile
  cases hp : parse v s with
  | error g =>
    simp only [hp] at h
    obtain rfl := Except.error.inj h
    rfl
  | ok file =>
    cases hi : file.inject vars with
    | error g =>
      simp only [hp, hi] at h
      obtain rfl := Except.error.inj h
      simp only [hi]
    | ok file' => simp only [hp, hi] at h; cases h

theorem prepareFile_eq_ok_iff {file' : EnvFile} :
    prepareFile v vars s = .ok file' ↔ ∃ file, parse v s = .ok file ∧ file.inject vars = .ok file' := by
  unfold prepareFile
  cases hp : parse v s with
  | error g => simp
  | ok file =>
    cases hi : file.inject vars with
    | error g => simp [hi]
    | ok file₁ => simp [hi]

/-- A file with needs can be read and filled. -/
theorem exists_of_needs (h : needs v vars s = .ok ps) :
    ∃ file, parse v s = .ok file ∧ file.inject vars = .ok (file.filled vars) ∧
      ps = file.demand vars := by
  unfold needs at h
  cases hp : parse v s with
  | error g => simp only [hp] at h; cases h
  | ok file =>
    cases hi : file.inject vars with
    | error g => simp only [hp, hi] at h; cases h
    | ok file' =>
      obtain rfl := (inject_eq_ok_iff.1 hi).2
      simp only [hp, hi] at h
      exact ⟨file, rfl, hi, (Except.ok.inj h).symm⟩

theorem prepareFile_of_needs_ok (h : needs v vars s = .ok ps) :
    ∃ file, parse v s = .ok file ∧ prepareFile v vars s = .ok (file.filled vars) ∧
      ps = file.demand vars := by
  obtain ⟨file, hp, hi, hps⟩ := exists_of_needs h
  exact ⟨file, hp, prepareFile_eq_ok_iff.2 ⟨file, hp, hi⟩, hps⟩

theorem injectFile_of_needs_error (h : needs v vars s = .error e) :
    injectFile v vars look s = ⟨[], .error e⟩ := by
  rw [injectFile, prepareFile_of_needs_error h]
  rfl

/-- A file that is read and filled is asked for and rendered. -/
theorem injectFile_eq_ask {file' : EnvFile} (h : parse v s = .ok file)
    (hi : file.inject vars = .ok file') :
    injectFile v vars look s = look.ask (file.demand vars) (file.rendered vars look.value) := by
  obtain rfl := (inject_eq_ok_iff.1 hi).2
  have hprep : prepareFile v vars s = .ok (file.filled vars) :=
    prepareFile_eq_ok_iff.2 ⟨file, h, hi⟩
  rw [injectFile, hprep]
  show (fetch look (file.filled vars).secrets).andThen _ = _
  rw [secrets_filled]
  apply fetch_andThen_eq_ask
  intro values hvalues
  rw [resolve_filled fun p hp => hvalues p (mem_distinct.2 hp)]
  rfl

theorem injectFile_of_inject_error (h : parse v s = .ok file) (hi : file.inject vars = .error f) :
    injectFile v vars look s = ⟨[], .error (.ofUsage f)⟩ := by
  apply injectFile_of_needs_error
  rw [needs, h]
  simp only [hi]

theorem injectFile_of_needs_ok (look : Lookup) (h : needs v vars s = .ok ps) :
    ∃ file, parse v s = .ok file ∧ ps = file.demand vars ∧
      injectFile v vars look s = look.ask ps (file.rendered vars look.value) := by
  obtain ⟨file, hp, hi, rfl⟩ := exists_of_needs h
  exact ⟨file, hp, rfl, injectFile_eq_ask hp hi⟩

end EnvFile

end SecretWeave
