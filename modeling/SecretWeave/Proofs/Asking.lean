import SecretWeave.Proofs.ChildEnvironment

/-!
# What a source is asked for

Injecting a text, injecting an env file and putting a child's environment together all keep to one
discipline: a source is asked for nothing before everything else is in order, and then for the paths
that are needed, each of them once and in order, until they are known or one of them fails
(`asking_comes_last`).
-/

namespace SecretWeave

/-! ## 1. The discipline -/

/-- The failures of reading and filling, in which a source has no part: something is wrong with the
text, with the name of a variable, with a variable that lacks a value or with a path. -/
inductive Failure.OfInput : Failure → Prop
  | unreadable {f : Fault} (h : f.root.OfSyntax) : OfInput (.template f)
  | badVariable {n : Text} (h : Text.isName n = false) : OfInput (.badVariable n)
  | undefinedVariable (n : Text) : OfInput (.template (.undefinedVariable n))
  | badPath {p : Text} (h : Text.isPath p = false) : OfInput (.template (.badPath p))

variable {α : Type} {look : Lookup} {ps : List Text} {a : Answer α} {e : Failure}

/-- How paths are asked for: each once, in order, up to the first that fails. -/
structure Asks (look : Lookup) (ps : List Text) (a : Answer α) : Prop where
  nodup : a.asked.Nodup
  inOrder : a.asked <+: ps
  ended :
    (a.asked = ps ∧ (∀ p ∈ ps, look.Has p) ∧ ∃ out, a.outcome = .ok out) ∨
      ∃ before p e, a.asked = before ++ [p] ∧ (∀ q ∈ before, look.Has q) ∧ look p = .error e ∧
        a.outcome = .error e

/-- How an operation with these needs treats a source. A failure over the input comes before any
question, and a failure after a question is the source's answer to the last one. So a value is
missing in the end only where the source itself says so. -/
structure Disciplined (look : Lookup) (needs : Except Failure (List Text)) (a : Answer α) :
    Prop where
  refused : ∀ e, needs = .error e → e.OfInput ∧ a = ⟨[], .error e⟩
  asks : ∀ ps, needs = .ok ps → Asks look ps a
  blamed : ∀ e, a.outcome = .error e → a.asked ≠ [] →
    ∃ p, a.asked.getLast? = some p ∧ look p = .error e
  missing : ∀ f p, a.outcome = .error (.template f) → f.root = .missingSecret p →
    ∃ q, a.asked.getLast? = some q ∧ look q = .error (.template f)

/-- Asking for distinct paths in turn is asking for each once, up to the first that fails. -/
theorem asks_ask (h : ps.Nodup) (b : α) : Asks look ps (look.ask ps b) := by
  rcases all_ok_or_refusedAt look ps with hps | ⟨e, before, p, after, rfl, hbefore, hp⟩
  · rw [ask_of_has hps]
    exact ⟨h, List.prefix_rfl, .inl ⟨rfl, hps, b, rfl⟩⟩
  · rw [ask_of_refused hbefore hp]
    -- the questions end with the path that fails, and these are still a part of all
    have hpre : before ++ [p] <+: before ++ p :: after := ⟨after, by simp⟩
    exact ⟨h.sublist hpre.sublist, hpre, .inr ⟨before, p, e, rfl, hbefore, hp, rfl⟩⟩

/-- A failure is the answer of the source to the path that was asked for last. -/
theorem Asks.blamed (h : Asks look ps a) (ho : a.outcome = .error e) :
    ∃ p, a.asked.getLast? = some p ∧ look p = .error e := by
  -- only the second ending is a failure
  rcases h.ended with ⟨-, -, out, hout⟩ | ⟨before, p, e', hasked, -, hp, hout⟩
  · rw [ho] at hout
    cases hout
  · rw [ho] at hout
    obtain rfl := Except.error.inj hout
    exact ⟨p, by rw [hasked]; simp, hp⟩

/-- A fault of the input never says that a secret is missing. -/
theorem Failure.OfInput.root_ne {f : Fault} (h : (Failure.template f).OfInput) (p : Text) :
    f.root ≠ .missingSecret p := by
  intro hroot
  cases h with
  | unreadable h =>
    rw [hroot] at h
    cases h
  | undefinedVariable n => cases hroot
  | badPath h => cases hroot

/-- An operation is disciplined when it fails over its input without a question, or asks as it
should. -/
theorem disciplined_of_needs {needs : Except Failure (List Text)}
    (hrefused : ∀ e, needs = .error e → e.OfInput ∧ a = ⟨[], .error e⟩)
    (hasks : ∀ ps, needs = .ok ps → Asks look ps a) : Disciplined look needs a where
  refused := hrefused
  asks := hasks
  blamed := by
    intro e ho hne
    cases hn : needs with
    | error e' =>
      obtain ⟨-, rfl⟩ := hrefused e' hn
      exact absurd rfl hne
    | ok ps => exact (hasks ps hn).blamed ho
  missing := by
    intro f p ho hroot
    cases hn : needs with
    | error e =>
      -- a failure over the input is never about a value that is missing
      obtain ⟨hinput, rfl⟩ := hrefused e hn
      obtain rfl := Except.error.inj ho
      exact absurd hroot (hinput.root_ne p)
    | ok ps => exact (hasks ps hn).blamed ho

/-! ## 2. Failures over the input -/

variable {v : Version} {vars : Bindings} {s : Text}

theorem Template.ofInput_of_inject {t : Template} {f : Fault} (h : t.inject vars = .error f) :
    (Failure.ofUsage f).OfInput := by
  rcases fault_of_inject h with ⟨n, hn, rfl⟩ | ⟨n, rfl⟩ | ⟨p, hp, rfl⟩
  · exact .badVariable (mem_of_badName? hn).2
  · exact .undefinedVariable n
  · exact .badPath hp

/-- Before a template has its needs, only the input can be at fault. -/
theorem Template.ofInput_of_needs (h : needs v vars s = .error e) : e.OfInput := by
  unfold needs at h
  cases hp : parse v s with
  | error f =>
    simp only [hp] at h
    obtain rfl := Except.error.inj h
    exact .unreadable (EnvFile.ofSyntax_of_parse hp)
  | ok t =>
    cases hi : t.inject vars with
    | error f =>
      simp only [hp, hi] at h
      obtain rfl := Except.error.inj h
      exact ofInput_of_inject hi
    | ok t' => simp only [hp, hi] at h; cases h

/-- Before an env file has its needs, only the input can be at fault. -/
theorem EnvFile.ofInput_of_needs (h : needs v vars s = .error e) : e.OfInput := by
  unfold needs at h
  cases hp : parse v s with
  | error f =>
    simp only [hp] at h
    obtain rfl := Except.error.inj h
    exact .unreadable (ofSyntax_of_parseFile hp)
  | ok file =>
    cases hi : file.inject vars with
    | error f =>
      simp only [hp, hi] at h
      obtain rfl := Except.error.inj h
      obtain ⟨t, -, ht⟩ := fault_of_inject hi
      exact Template.ofInput_of_inject ht
    | ok file' => simp only [hp, hi] at h; cases h

/-- Before a child has its needs, only the input can be at fault. -/
theorem ChildEnvironment.ofInput_of_needs {c : ChildEnvironment} (h : c.needs = .error e) :
    e.OfInput := by
  unfold needs at h
  cases hf : c.fileNeeds with
  | error e' =>
    simp only [hf] at h
    obtain rfl := Except.error.inj h
    unfold fileNeeds at hf
    cases hs : c.envFile with
    | none => simp only [hs] at hf; cases hf
    | some s =>
      simp only [hs] at hf
      exact EnvFile.ofInput_of_needs hf
  | ok ps =>
    -- the file is in order, so only the path of a reference is left to be wrong
    cases hr : c.ownReferences.find? (fun r => !Text.isPath r.2) with
    | none => simp only [hf, hr] at h; cases h
    | some r =>
      simp only [hf, hr] at h
      obtain rfl := Except.error.inj h
      have hpath : (!Text.isPath r.2) = true :=
        List.find?_some (p := fun r : Text × Text => !Text.isPath r.2) hr
      exact .badPath (by simpa using hpath)

/-! ## 3. Needs without repetitions -/

theorem Template.nodup_of_needs (h : needs v vars s = .ok ps) : ps.Nodup := by
  obtain ⟨t, -, -, rfl⟩ := exists_of_needs h
  exact nodup_distinct _

theorem EnvFile.nodup_of_needs (h : needs v vars s = .ok ps) : ps.Nodup := by
  obtain ⟨file, -, -, rfl⟩ := prepareFile_of_needs_ok h
  exact nodup_distinct _

theorem ChildEnvironment.nodup_of_needs {c : ChildEnvironment} (h : c.needs = .ok ps) :
    ps.Nodup := by
  unfold needs at h
  split at h
  · cases h
  · split at h
    · cases h
    · obtain rfl := Except.ok.inj h
      exact nodup_distinct _

/-! ## 4. The operations -/

/-- A source is touched last, and as needed. Texts, env files and children's environments fail over
their input before they ask for anything, or ask for their needs and succeed or fail as the source
does. -/
theorem asking_comes_last (look : Lookup) :
    (∀ v vars s, Disciplined look (Template.needs v vars s) (inject v vars look s)) ∧
    (∀ v vars s, Disciplined look (EnvFile.needs v vars s) (injectFile v vars look s)) ∧
    ∀ c : ChildEnvironment, Disciplined look c.needs (c.resolve look) := by
  -- each operation fails over its needs before it asks, or asks for exactly these
  refine ⟨?_, ?_, ?_⟩
  · intro v vars s
    apply disciplined_of_needs
    · intro e hn
      exact ⟨Template.ofInput_of_needs hn, Template.inject_of_needs_error hn⟩
    · intro ps hn
      obtain ⟨t, -, -, hask⟩ := Template.inject_of_needs_ok look hn
      rw [hask]
      exact asks_ask (Template.nodup_of_needs hn) _
  · intro v vars s
    apply disciplined_of_needs
    · intro e hn
      exact ⟨EnvFile.ofInput_of_needs hn, EnvFile.injectFile_of_needs_error hn⟩
    · intro ps hn
      obtain ⟨file, -, -, hask⟩ := EnvFile.injectFile_of_needs_ok look hn
      rw [hask]
      exact asks_ask (EnvFile.nodup_of_needs hn) _
  · intro c
    apply disciplined_of_needs
    · intro e hn
      exact ⟨ChildEnvironment.ofInput_of_needs hn, ChildEnvironment.resolve_of_needs_error hn⟩
    · intro ps hn
      obtain ⟨f, -, -, hask⟩ := ChildEnvironment.resolve_of_needs_ok look hn
      rw [hask]
      exact asks_ask (ChildEnvironment.nodup_of_needs hn) _

end SecretWeave
