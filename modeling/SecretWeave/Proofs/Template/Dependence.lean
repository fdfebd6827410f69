import SecretWeave.Proofs.Steering
import SecretWeave.Proofs.Storing
import SecretWeave.Proofs.Template.Soundness

/-!
# What injecting variables depends on

A template is injected by the variables it lists and by no others. It fails at its first segment
that cannot be filled: with the first variable that lacks a value, or with a path that is none
although its variables have values. What it gives has the same segments, filled, and stays as it is
(`inject_by_variables`).
-/

namespace SecretWeave.Template

variable {vars vars' : Bindings} {s : Segment} {t t' : Template} {f : Fault}

/-! ## 1. Agreeing mappings -/

theorem substituteSegment_congr (h : AgreeOn vars vars' s.variableNames) :
    substituteSegment vars s = substituteSegment vars' s := by
  cases s with
  | literal text => rfl
  | var v =>
    have hv : valueOf vars v.name = valueOf vars' v.name := by
      unfold valueOf
      rw [h v.name List.mem_cons_self]
    rw [substituteSegment, substituteSegment, hv]
  | secret p raw =>
    cases p with
    | path p => rfl
    | pattern parts => rw [substituteSegment, substituteSegment, flatten_congr h]

/-- Replacing variables depends on those that occur. -/
theorem substitute_congr {ss : List Segment}
    (h : AgreeOn vars vars' (ss.flatMap Segment.variableNames)) :
    substitute vars ss = substitute vars' ss := by
  induction ss with
  | nil => rfl
  | cons s ss ih =>
    rw [List.flatMap_cons] at h
    have hs : substituteSegment vars s = substituteSegment vars' s :=
      substituteSegment_congr (h.of_subset fun n hn => List.mem_append_left _ hn)
    have hss : substitute vars ss = substitute vars' ss :=
      ih (h.of_subset fun n hn => List.mem_append_right _ hn)
    rw [substitute, substitute, hs, hss]

theorem inject_congr (hbad : vars.badName? = vars'.badName?)
    (h : AgreeOn vars vars' t.variableNames) : t.inject vars = t.inject vars' := by
  have hss : substitute vars t.segments = substitute vars' t.segments :=
    substitute_congr (h.of_subset fun n hn => mem_distinct.2 hn)
  unfold inject
  rw [hbad, hss]

/-! ## 2. What it takes -/

/-- A sound segment is filled by values for its variables and, if it is a reference, a path. -/
theorem fillable_iff_of_sound (h : s.Sound) :
    s.Fillable vars ↔ (∀ n ∈ s.variableNames, n ∈ vars.keys) ∧
      ∀ p, s.lookup? vars = some p → Text.isPath p = true := by
  cases s with
  | literal text => simp [Segment.Fillable, Segment.variableNames, Segment.lookup?]
  | var v => simp [Segment.Fillable, Segment.variableNames, Segment.lookup?]
  | secret p raw =>
    cases p with
    | path p =>
      have hpath : Text.isPath p = true := h
      simp [Segment.Fillable, SecretPath.Fillable, Segment.variableNames, SecretPath.variableNames,
        Segment.lookup?, SecretPath.filled, hpath]
    | pattern parts =>
      simp [Segment.Fillable, SecretPath.Fillable, Segment.variableNames, Segment.lookup?]

/-- A sound template is filled exactly if its variables have values and its paths are paths. -/
theorem exists_inject_iff (h : t.Sound) (hn : vars.badName? = none) :
    (∃ t', t.inject vars = .ok t') ↔
      (∀ n ∈ t.variableNames, n ∈ vars.keys) ∧ ∀ p ∈ t.uses vars, Text.isPath p = true := by
  have hok : (∃ t', t.inject vars = .ok t') ↔ ∀ s ∈ t.segments, s.Fillable vars := by
    simp only [inject_eq_ok_iff, ← badName?_eq_none_iff, hn, true_and]
    constructor
    · rintro ⟨-, hfill, -⟩
      exact hfill
    · intro hfill
      exact ⟨_, hfill, rfl⟩
  rw [hok]
  constructor
  · intro hfill
    constructor
    · intro n hmem
      obtain ⟨s, hs, hns⟩ := mem_variableNames.1 hmem
      exact ((fillable_iff_of_sound (h s hs)).1 (hfill s hs)).1 n hns
    · intro p hp
      obtain ⟨s, hs, hps⟩ := List.mem_filterMap.1 hp
      exact ((fillable_iff_of_sound (h s hs)).1 (hfill s hs)).2 p hps
  · rintro ⟨hnames, hpaths⟩ s hs
    refine (fillable_iff_of_sound (h s hs)).2 ⟨?_, ?_⟩
    · intro n hns
      exact hnames n (mem_variableNames.2 ⟨s, hs, hns⟩)
    · intro p hps
      exact hpaths p (List.mem_filterMap.2 ⟨s, hs, hps⟩)

/-! ## 3. Where it fails -/

/-- Injection fails at the first segment that cannot be filled. -/
theorem exists_not_fillable (hn : vars.badName? = none) (h : t.inject vars = .error f) :
    ∃ before s after, t.segments = before ++ s :: after ∧ (∀ g ∈ before, g.Fillable vars) ∧
      ¬ s.Fillable vars ∧ substituteSegment vars s = .error f := by
  obtain ⟨before, s, after, hseg, hbefore, hs⟩ := (inject_eq_error_iff hn).1 h
  refine ⟨before, s, after, hseg, ?_, ?_, hs⟩
  · intro g hg
    obtain ⟨g', hg'⟩ := hbefore g hg
    exact (substituteSegment_eq_ok_iff.1 hg').1
  · intro hfill
    cases hs.symm.trans (substituteSegment_of_fillable hfill)

/-- A variable that is reported missing is the first of all that lacks a value. -/
theorem find?_variableNames_of_inject (h : t.Sound) (hn : vars.badName? = none) {n : Text}
    (hi : t.inject vars = .error (.undefinedVariable n)) :
    t.variableNames.find? (fun n => n ∉ vars.keys) = some n := by
  obtain ⟨before, s, after, hseg, hbefore, hs, hfault⟩ := exists_not_fillable hn hi
  -- no name is missing before the segment that is refused
  have hpassed : (before.flatMap Segment.variableNames).find? (fun n => n ∉ vars.keys) = none := by
    rw [List.find?_eq_none]
    intro m hm
    obtain ⟨g, hg, hmg⟩ := List.mem_flatMap.1 hm
    have hsound : g.Sound := h g (by rw [hseg]; exact List.mem_append_left _ hg)
    simpa using ((fillable_iff_of_sound hsound).1 (hbefore g hg)).1 m hmg
  have hhere : s.variableNames.find? (fun n => n ∉ vars.keys) = some n := by
    rcases substituteSegment_of_not_fillable hs with ⟨m, hm, he⟩ | ⟨-, p, -, -, he⟩
    · obtain rfl := Fault.undefinedVariable.inj (Except.error.inj (he.symm.trans hfault))
      exact hm
    · cases he.symm.trans hfault
  rw [variableNames, find?_distinct, hseg, List.flatMap_append, List.flatMap_cons,
    List.find?_append, List.find?_append, hpassed, hhere]
  rfl

/-- A path that is refused embeds variables, all of which have values, and so have those before. -/
theorem exists_refused_path (h : t.Sound) (hn : vars.badName? = none) {p : Text}
    (hi : t.inject vars = .error (.badPath p)) :
    ∃ before parts raw after, t.segments = before ++ .secret (.pattern parts) raw :: after ∧
      p = (SecretPath.pattern parts).filled vars ∧ Text.isPath p = false ∧
      (∀ g ∈ before, ∀ q, g.lookup? vars = some q → Text.isPath q = true) ∧
      ∀ g ∈ before ++ [.secret (.pattern parts) raw], ∀ n ∈ g.variableNames, n ∈ vars.keys := by
  obtain ⟨before, s, after, hseg, hbefore, hs, hfault⟩ := exists_not_fillable hn hi
  have hpassed : ∀ g ∈ before, (∀ n ∈ g.variableNames, n ∈ vars.keys) ∧
      ∀ q, g.lookup? vars = some q → Text.isPath q = true := by
    intro g hg
    have hsound : g.Sound := h g (by rw [hseg]; exact List.mem_append_left _ hg)
    exact (fillable_iff_of_sound hsound).1 (hbefore g hg)
  rcases substituteSegment_of_not_fillable hs with ⟨m, -, he⟩ | ⟨hnames, q, hq, hpath, he⟩
  · cases he.symm.trans hfault
  · obtain rfl := Fault.badPath.inj (Except.error.inj (he.symm.trans hfault))
    -- of the segments that look something up only one with variables has a path to be checked
    cases s with
    | literal text => cases hq
    | var v => cases hq
    | secret path raw =>
      cases path with
      | path p => exact absurd trivial hs
      | pattern parts =>
        refine ⟨before, parts, raw, after, hseg, (Option.some.inj hq).symm, hpath,
          fun g hg => (hpassed g hg).2, ?_⟩
        intro g hg
        rcases List.mem_append.1 hg with hg | hg
        · exact (hpassed g hg).1
        · obtain rfl := List.mem_singleton.1 hg
          exact hnames

/-! ## 4. What it gives -/

/-- A template without variables left names none. -/
theorem variableNames_of_settled (h : t.Settled) : t.variableNames = [] := by
  rw [List.eq_nil_iff_forall_not_mem]
  intro n hn
  obtain ⟨s, hs, hns⟩ := mem_variableNames.1 hn
  obtain ⟨hvar, hpattern⟩ := h s hs
  cases s with
  | literal text => cases hns
  | var v => exact hvar v rfl
  | secret p raw =>
    cases p with
    | path p => cases hns
    | pattern parts => exact hpattern parts raw rfl

/-- Where no variable is left, injection changes nothing. -/
theorem inject_of_settled (h : t.Settled) (hn : vars.badName? = none) :
    t.inject vars = .ok t := by
  have hkeep : ∀ s ∈ t.segments, s.Fillable vars ∧ s.filled vars = s := by
    intro s hs
    obtain ⟨hvar, hpattern⟩ := h s hs
    cases s with
    | literal text => exact ⟨trivial, rfl⟩
    | var v => exact absurd rfl (hvar v)
    | secret p raw =>
      cases p with
      | path p => exact ⟨trivial, rfl⟩
      | pattern parts => exact absurd rfl (hpattern parts raw)
  have hsame : t.filled vars = t := by
    unfold filled
    rw [List.map_congr_left fun s hs => (hkeep s hs).2, List.map_id']
  rw [inject_of_fillable hn fun s hs => (hkeep s hs).1, hsame]

/-- Injecting a template that was read depends on the variables it lists, in the order in which they
are first used, and on nothing else of a mapping whose names are identifiers. It succeeds exactly
when these have values and all paths are paths once the values are put in. A variable that is
reported missing is the first in the list without a value; a path that is refused is the first one
that is none, and no variable is missing up to it. On success each segment gives one, filled, no
variable is left, and nothing is changed by injecting once more. -/
theorem inject_by_variables {v : Version} {text : Text} {t : Template}
    (h : parse v text = .ok t) :
    InFirstUseOrder t.variableNames (t.segments.flatMap Segment.variableNames) ∧
    ∀ vars : Bindings, (∀ n ∈ vars.keys, Text.isName n = true) →
      (∀ vars' : Bindings, (∀ n ∈ vars'.keys, Text.isName n = true) →
        (∀ n ∈ t.variableNames, vars.get? n = vars'.get? n) → t.inject vars = t.inject vars') ∧
      ((∃ t', t.inject vars = .ok t') ↔
        (∀ n ∈ t.variableNames, n ∈ vars.keys) ∧ ∀ p ∈ t.uses vars, Text.isPath p = true) ∧
      (∀ n, t.inject vars = .error (.undefinedVariable n) →
        t.variableNames.find? (fun n => n ∉ vars.keys) = some n) ∧
      (∀ p, t.inject vars = .error (.badPath p) →
        ∃ before parts raw after, t.segments = before ++ .secret (.pattern parts) raw :: after ∧
          p = (SecretPath.pattern parts).filled vars ∧ Text.isPath p = false ∧
          (∀ g ∈ before, ∀ q, g.lookup? vars = some q → Text.isPath q = true) ∧
          ∀ g ∈ before ++ [.secret (.pattern parts) raw], ∀ n ∈ g.variableNames,
            n ∈ vars.keys) ∧
      (∀ f, t.inject vars = .error f → (∃ n, f = .undefinedVariable n) ∨ ∃ p, f = .badPath p) ∧
      ∀ t', t.inject vars = .ok t' →
        t'.variableNames = [] ∧ t'.segments = t.segments.map (Segment.filled vars) ∧
        ∀ vars' : Bindings, (∀ n ∈ vars'.keys, Text.isName n = true) →
          t'.inject vars' = .ok t' := by
  have hsound := sound_of_parse h
  refine ⟨inFirstUseOrder_distinct _, ?_⟩
  intro vars hvars
  have hn := badName?_eq_none_iff.2 hvars
  refine ⟨?_, exists_inject_iff hsound hn, ?_, ?_, ?_, ?_⟩
  · intro vars' hvars' hagree
    exact inject_congr (hn.trans (badName?_eq_none_iff.2 hvars').symm) hagree
  · intro n hi
    exact find?_variableNames_of_inject hsound hn hi
  · intro p hi
    exact exists_refused_path hsound hn hi
  · intro f hi
    rcases fault_of_inject hi with ⟨n, hbad, -⟩ | hname | ⟨p, -, hpath⟩
    · cases hn.symm.trans hbad
    · exact .inl hname
    · exact .inr ⟨p, hpath⟩
  · intro t' hi
    have hsettled := settled_of_inject hi
    refine ⟨variableNames_of_settled hsettled, ?_, ?_⟩
    · rw [(inject_eq_ok_iff.1 hi).2.2]
      rfl
    · intro vars' hvars'
      exact inject_of_settled hsettled (badName?_eq_none_iff.2 hvars')

/-- Of the variables in a path and in the text the one that is used first and has no value. -/
theorem inject_by_variables_first_missing :
    let vars : Bindings := OrderedMap.ofList [("b".toList, "x".toList)]
    ∃ t, parse .v2 "{{ k/${b} }}${a}{{ ${a}/${c} }}".toList = .ok t ∧
      (∀ n ∈ vars.keys, Text.isName n = true) ∧
      t.inject vars = .error (.undefinedVariable "a".toList) ∧
      t.variableNames.find? (fun n => n ∉ vars.keys) = some "a".toList := by
  intro vars
  have hparse : parse .v2 "{{ k/${b} }}${a}{{ ${a}/${c} }}".toList =
      .ok ⟨[.secret (.pattern [.text "k/".toList, .var ⟨"b".toList, "${b}".toList⟩])
          "{{ k/${b} }}".toList,
        .var ⟨"a".toList, "${a}".toList⟩,
        .secret (.pattern [.var ⟨"a".toList, "${a}".toList⟩, .text "/".toList,
          .var ⟨"c".toList, "${c}".toList⟩]) "{{ ${a}/${c} }}".toList]⟩ := by decide +kernel
  have hvars : ∀ n ∈ vars.keys, Text.isName n = true := by decide
  obtain ⟨-, hall⟩ := inject_by_variables hparse
  obtain ⟨-, -, hmissing, -⟩ := hall vars hvars
  exact ⟨_, hparse, hvars, by rfl, hmissing _ (by rfl)⟩

end SecretWeave.Template
