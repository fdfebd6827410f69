import SecretWeave.Proofs.EnvFile
import SecretWeave.Proofs.Storing
import SecretWeave.Proofs.Template.Soundness

/-!
# What resolving reads

Once variables are replaced, a template and an env file need values for the paths they list and for
no others, and what is reported missing is the first of them. A template with variables left is not
resolved at all: it fails at the first segment that something is in the way of
(`resolve_reads_secrets`).
-/

namespace SecretWeave

variable {values : Secrets} {s : Segment} {ss : List Segment} {f : Fault}

/-! ## 1. What is in the way -/

/-- What keeps a segment from being resolved: a variable, the first variable in a path, or a path
without a value. -/
inductive Segment.Blocked (values : Secrets) : Segment → Fault → Prop
  | var (v : Variable) : Blocked values (.var v) (.undefinedVariable v.name)
  | pattern {parts : List PathPart} {n : Text} (raw : Text)
      (h : (SecretPath.pattern parts).variableNames.head? = some n) :
      Blocked values (.secret (.pattern parts) raw) (.undefinedVariable n)
  | path {p : Text} (raw : Text) (h : p ∉ values.keys) :
      Blocked values (.secret (.path p) raw) (.missingSecret p)

def FirstBlocked (values : Secrets) (ss : List Segment) (f : Fault) : Prop :=
  ∃ before s after, ss = before ++ s :: after ∧ (∀ g ∈ before, ∀ f, ¬ g.Blocked values f) ∧
    s.Blocked values f

/-- Paths that are read to resolve segments: they are those that the segments look up, in order of
first use, and all of them need values; what is reported missing is the first without one, and
values of other paths do not matter. -/
structure Reads {α : Type} (resolve : Secrets → Except Fault α) (ss : List Segment)
    (paths : List Text) : Prop where
  listed : InFirstUseOrder paths (ss.filterMap Segment.secret?)
  reference : ∀ p raw, .secret p raw ∈ ss → ∃ q ∈ paths, p = .path q
  total : ∀ values, (∃ a, resolve values = .ok a) ↔ ∀ p ∈ paths, p ∈ values.keys
  missing : ∀ values f, resolve values = .error f →
    ∃ p, paths.find? (fun p => p ∉ values.keys) = some p ∧ f = .missingSecret p
  congr : ∀ values values' : Secrets, (∀ p ∈ paths, values.get? p = values'.get? p) →
    resolve values = resolve values'

namespace Template

/-- A segment fails to be resolved exactly for what blocks it. -/
theorem resolveSegment_eq_error_iff
    (hs : ∀ parts raw, s = .secret (.pattern parts) raw →
      (SecretPath.pattern parts).variableNames ≠ []) :
    resolveSegment values s = .error f ↔ s.Blocked values f := by
  cases s with
  | literal t =>
    constructor
    · intro h
      cases h
    · intro h
      cases h
  | var v =>
    constructor
    · intro h
      obtain rfl := Except.error.inj h
      exact .var v
    · intro h
      cases h
      rfl
  | secret p raw =>
    cases p with
    | path p =>
      rw [resolveSegment]
      constructor
      · intro h
        cases hp : values.get? p with
        | some b => rw [hp] at h; cases h
        | none =>
          rw [hp] at h
          obtain rfl := Except.error.inj h
          exact .path raw (OrderedMap.get?_eq_none_iff.1 hp)
      · intro h
        cases h with
        | path _ hp => rw [OrderedMap.get?_eq_none_iff.2 hp]
    | pattern parts =>
      -- a pattern has a variable, and the first of them is reported
      obtain ⟨n, rest, hnames⟩ := List.exists_cons_of_ne_nil (hs parts raw rfl)
      rw [resolveSegment, hnames]
      constructor
      · intro h
        obtain rfl := Except.error.inj h
        exact .pattern raw (by rw [hnames]; rfl)
      · intro h
        cases h with
        | pattern _ hn =>
          rw [hnames] at hn
          obtain rfl := Option.some.inj hn
          rfl

/-- The first blocked segment is the one at which resolving stops. -/
theorem firstBlocked_iff
    (hss : ∀ s ∈ ss, ∀ parts raw, s = .secret (.pattern parts) raw →
      (SecretPath.pattern parts).variableNames ≠ []) :
    FirstBlocked values ss f ↔ RefusedAt (resolveSegment values) ss f := by
  have hok : ∀ s ∈ ss, (∃ out, resolveSegment values s = .ok out) ↔ ∀ f, ¬ s.Blocked values f := by
    intro s hs
    simp only [← resolveSegment_eq_error_iff (hss s hs)]
    cases resolveSegment values s <;> simp
  constructor
  · rintro ⟨before, s, after, rfl, hbefore, hs⟩
    exact ⟨before, s, after, rfl, fun g hg => (hok g (by simp [hg])).2 (hbefore g hg),
      (resolveSegment_eq_error_iff (hss s (by simp))).2 hs⟩
  · rintro ⟨before, s, after, rfl, hbefore, hs⟩
    exact ⟨before, s, after, rfl, fun g hg => (hok g (by simp [hg])).1 (hbefore g hg),
      (resolveSegment_eq_error_iff (hss s (by simp))).1 hs⟩

/-! ## 2. Segments without variables -/

/-- Without variables, only a path that lacks a value can be in the way. -/
theorem secret?_of_blocked (hs : (∀ v, s ≠ .var v) ∧ ∀ parts raw, s ≠ .secret (.pattern parts) raw)
    (h : s.Blocked values f) : ∃ p, s.secret? = some p ∧ p ∉ values.keys ∧ f = .missingSecret p := by
  cases h with
  | var v => exact absurd rfl (hs.1 v)
  | pattern raw hn => exact absurd rfl (hs.2 _ raw)
  | path raw hp => exact ⟨_, rfl, hp, rfl⟩

/-- Where no variables are left, resolving stops at the first path without a value. -/
theorem find?_of_refusedAt (hss : Settled ⟨ss⟩) (h : RefusedAt (resolveSegment values) ss f) :
    ∃ p, (ss.filterMap Segment.secret?).find? (fun p => p ∉ values.keys) = some p ∧
      f = .missingSecret p := by
  rw [← firstBlocked_iff fun s hs parts raw he => absurd he ((hss s hs).2 parts raw)] at h
  obtain ⟨before, s, after, rfl, hbefore, hs⟩ := h
  obtain ⟨p, hp, hmem, rfl⟩ := secret?_of_blocked (hss s (by simp)) hs
  -- a path before this one that lacked a value would have been in the way
  have hpassed : (before.filterMap Segment.secret?).find? (fun p => p ∉ values.keys) = none := by
    rw [List.find?_eq_none]
    intro q hq
    obtain ⟨g, hg, hgq⟩ := List.mem_filterMap.1 hq
    have hfree := hbefore g hg
    cases g with
    | literal t => cases hgq
    | var v => cases hgq
    | secret path raw =>
      cases path with
      | pattern parts => cases hgq
      | path q' =>
        obtain rfl := Option.some.inj hgq
        have hkeys : q' ∈ values.keys := by
          by_contra hnot
          exact hfree _ (.path raw hnot)
        simpa using hkeys
  refine ⟨p, ?_, rfl⟩
  rw [List.filterMap_append, List.filterMap_cons_some hp, List.find?_append, hpassed,
    Option.none_or, List.find?_cons_of_pos]
  simpa using hmem

theorem exists_refusedAt {p : Text} (hp : p ∈ ss.filterMap Segment.secret?)
    (hmem : p ∉ values.keys) : ∃ f, RefusedAt (resolveSegment values) ss f := by
  rcases all_ok_or_refusedAt (resolveSegment values) ss with hall | h
  · obtain ⟨s, hs, hsp⟩ := List.mem_filterMap.1 hp
    obtain ⟨out, hout⟩ := hall s hs
    exact absurd (mem_keys_of_resolveSegment hout hsp) hmem
  · exact h

/-- Resolving that fails for the first of settled segments that is refused reads their paths. -/
theorem reads_of_settled {α : Type} {resolve : Secrets → Except Fault α} (hss : Settled ⟨ss⟩)
    (herr : ∀ values f, resolve values = .error f ↔ RefusedAt (resolveSegment values) ss f)
    (hcongr : ∀ values values' : Secrets,
      (∀ p ∈ ss.filterMap Segment.secret?, values.get? p = values'.get? p) →
        resolve values = resolve values') :
    Reads resolve ss (distinct (ss.filterMap Segment.secret?)) where
  listed := inFirstUseOrder_distinct _
  reference p raw hmem := by
    cases p with
    | path q => exact ⟨q, mem_distinct.2 (List.mem_filterMap.2 ⟨_, hmem, rfl⟩), rfl⟩
    | pattern parts => exact absurd rfl ((hss _ hmem).2 parts raw)
  total values := by
    simp only [mem_distinct]
    constructor
    · rintro ⟨a, ha⟩ p hp
      -- where a value is missing, some segment is refused
      by_contra hmem
      obtain ⟨f, hf⟩ := exists_refusedAt hp hmem
      cases ha.symm.trans ((herr values f).2 hf)
    · intro hall
      cases hr : resolve values with
      | ok a => exact ⟨a, rfl⟩
      | error f =>
        obtain ⟨p, hp, -⟩ := find?_of_refusedAt hss ((herr values f).1 hr)
        have hmem := hall p (List.mem_of_find?_eq_some hp)
        have hnot := List.find?_some hp
        simp [hmem] at hnot
  missing values f hr := by
    obtain ⟨p, hp, hf⟩ := find?_of_refusedAt hss ((herr values f).1 hr)
    exact ⟨p, (find?_distinct _ _).trans hp, hf⟩
  congr values values' h := hcongr values values' fun p hp => h p (mem_distinct.2 hp)

/-- A filled template reads the secrets that it lists, and nothing else. -/
theorem reads_of_inject {vars : Bindings} {t t' : Template} (h : t.inject vars = .ok t') :
    Reads (fun values => t'.resolve values) t'.segments t'.secrets :=
  reads_of_settled (settled_of_inject h) (fun _ _ => resolve_eq_error_iff)
    fun _ _ hvalues => resolve_congr fun p hp => hvalues p (mem_distinct.1 hp)

end Template

/-! ## 3. Env files -/

namespace EnvFile

def segments (file : EnvFile) : List Segment :=
  file.entries.values.flatMap Template.segments

theorem filterMap_segments (file : EnvFile) :
    file.segments.filterMap Segment.secret? = file.entries.values.flatMap Template.lookups :=
  List.filterMap_flatMap

/-- A file fails to be resolved for the first of all its segments that cannot be. -/
theorem resolve_eq_error_iff {file : EnvFile} :
    file.resolve values = .error f ↔
      RefusedAt (Template.resolveSegment values) file.segments f := by
  rw [resolve, OrderedMap.traverse_eq_error_iff]
  exact refusedAt_flatMap_iff (fun _ _ => Template.resolve_eq_error_iff) _

/-- No variables are left in a file that was filled. -/
theorem settled_of_inject {vars : Bindings} {file file' : EnvFile}
    (h : file.inject vars = .ok file') : Template.Settled ⟨file'.segments⟩ := by
  obtain ⟨hgood, rfl⟩ := inject_eq_ok_iff.1 h
  intro s hs
  obtain ⟨t', ht', hst'⟩ := List.mem_flatMap.1 hs
  rw [filled, OrderedMap.values_mapValues] at ht'
  obtain ⟨t, ht, rfl⟩ := List.mem_map.1 ht'
  obtain ⟨hnames, hfill⟩ := hgood t ht
  have hi : t.inject vars = .ok (t.filled vars) :=
    Template.inject_eq_ok_iff.2 ⟨hnames, hfill, rfl⟩
  exact Template.settled_of_inject hi s hst'

/-- A filled file reads the secrets that it lists, and nothing else. -/
theorem reads_of_inject {vars : Bindings} {file file' : EnvFile}
    (h : file.inject vars = .ok file') :
    Reads (fun values => file'.resolve values) file'.segments file'.secrets := by
  rw [secrets, ← filterMap_segments]
  apply Template.reads_of_settled (settled_of_inject h) fun _ _ => resolve_eq_error_iff
  intro values values' hvalues
  apply OrderedMap.traverse_congr
  intro t ht
  apply Template.resolve_congr
  intro p hp
  apply hvalues
  rw [filterMap_segments]
  exact List.mem_flatMap.2 ⟨t, ht, mem_distinct.1 hp⟩

end EnvFile

/-! ## 4. Variables that are left -/

namespace Template

theorem exists_variable_of_sound {t : Template} (h : t.Sound) (hs : s ∈ t.segments)
    {parts : List PathPart} {raw : Text} (he : s = .secret (.pattern parts) raw) :
    (SecretPath.pattern parts).variableNames ≠ [] := by
  subst he
  obtain ⟨-, v, hv⟩ := h _ hs
  have hmem : v.name ∈ (SecretPath.pattern parts).variableNames :=
    List.mem_filterMap.2 ⟨_, hv, rfl⟩
  exact List.ne_nil_of_mem hmem

/-- A template with variables left fails at its first segment that is blocked. -/
theorem exists_firstBlocked {t : Template} (h : t.Sound) (hvars : t.variableNames ≠ [])
    (values : Secrets) : ∃ f, FirstBlocked values t.segments f ∧ t.resolve values = .error f := by
  have hiff : ∀ f, FirstBlocked values t.segments f ↔ t.resolve values = .error f := by
    intro f
    rw [resolve_eq_error_iff]
    exact firstBlocked_iff fun s hs parts raw he => exists_variable_of_sound h hs he
  rcases all_ok_or_refusedAt (resolveSegment values) t.segments with hall | ⟨f, hf⟩
  · obtain ⟨n, hn⟩ := List.exists_mem_of_ne_nil _ hvars
    obtain ⟨s, hs, hns⟩ := mem_variableNames.1 hn
    obtain ⟨out, hout⟩ := hall s hs
    -- a segment with variables has no text
    cases s with
    | literal text => cases hns
    | var v => cases hout
    | secret p raw =>
      cases p with
      | path p => cases hns
      | pattern parts => cases hout
  · have hr := resolve_eq_error_iff.2 hf
    exact ⟨f, (hiff f).2 hr, hr⟩

end Template

/-- Resolving reads the listed paths, all of them and no others. That is so for a template and for
an env file once variables are replaced. A template that was read and has variables left is resolved
by no values, and fails at its first segment that is a variable, that embeds one in its path, or
that looks up a path without a value. -/
theorem resolve_reads_secrets :
    (∀ (vars : Bindings) (t t' : Template), t.inject vars = .ok t' →
      Reads (fun values => t'.resolve values) t'.segments t'.secrets) ∧
    (∀ (vars : Bindings) (file file' : EnvFile), file.inject vars = .ok file' →
      Reads (fun values => file'.resolve values) file'.segments file'.secrets) ∧
    ∀ (v : Version) (text : Text) (t : Template), Template.parse v text = .ok t →
      t.variableNames ≠ [] → ∀ values : Secrets,
        ∃ f, FirstBlocked values t.segments f ∧ t.resolve values = .error f := by
  refine ⟨?_, ?_, ?_⟩
  · intro vars t t' h
    exact Template.reads_of_inject h
  · intro vars file file' h
    exact EnvFile.reads_of_inject h
  · intro v text t h hvars values
    exact Template.exists_firstBlocked (Template.sound_of_parse h) hvars values

/-- A path that is used twice has a value, and one that embeds a variable has none. -/
theorem resolve_reads_secrets_first_missing :
    let vars : Bindings := OrderedMap.ofList [("v".toList, "x".toList)]
    let values : Secrets := OrderedMap.ofList [("a/b".toList, Text.utf8 "1".toList)]
    ∃ t t', Template.parse .v2 "{{ a/b }}{{ k/${v} }}{{ a/b }}".toList = .ok t ∧
      t.inject vars = .ok t' ∧ t'.secrets = ["a/b".toList, "k/x".toList] ∧
      t'.secrets.find? (fun p => p ∉ values.keys) = some "k/x".toList ∧
      t'.resolve values = .error (.missingSecret "k/x".toList) := by
  intro vars values
  have hparse : Template.parse .v2 "{{ a/b }}{{ k/${v} }}{{ a/b }}".toList =
      .ok ⟨[.secret (.path "a/b".toList) "{{ a/b }}".toList,
        .secret (.pattern [.text "k/".toList, .var ⟨"v".toList, "${v}".toList⟩])
          "{{ k/${v} }}".toList,
        .secret (.path "a/b".toList) "{{ a/b }}".toList]⟩ := by decide +kernel
  have hinject : Template.inject vars
      ⟨[.secret (.path "a/b".toList) "{{ a/b }}".toList,
        .secret (.pattern [.text "k/".toList, .var ⟨"v".toList, "${v}".toList⟩])
          "{{ k/${v} }}".toList,
        .secret (.path "a/b".toList) "{{ a/b }}".toList]⟩ =
      .ok ⟨[.secret (.path "a/b".toList) "{{ a/b }}".toList,
        .secret (.path "k/x".toList) "{{ k/${v} }}".toList,
        .secret (.path "a/b".toList) "{{ a/b }}".toList]⟩ := by rfl
  obtain ⟨hreads, -, -⟩ := resolve_reads_secrets
  obtain ⟨p, hp, hf⟩ := (hreads vars _ _ hinject).missing values (.missingSecret "k/x".toList)
    (by rfl)
  obtain rfl := Fault.missingSecret.inj hf
  exact ⟨_, _, hparse, hinject, by rfl, hp, by rfl⟩

end SecretWeave
