import SecretWeave.Proofs.OrderedMap
import SecretWeave.Template.Fill

/-!
# What substituting variables does

A segment whose variables have values, and whose path is one once they are put in, gives way to its
filled form. Substitution succeeds exactly when every segment does so, and otherwise it stops at the
first that does not: a variable lacks a value or a path is none.
-/

namespace SecretWeave

/-! ## 1. Filled forms -/

def Bindings.value (vars : Bindings) (name : Text) : Text :=
  (vars.get? name).getD []

def PathPart.filled (vars : Bindings) : PathPart → Text
  | .text t => t
  | .var v => vars.value v.name

def SecretPath.filled (vars : Bindings) : SecretPath → Text
  | .path p => p
  | .pattern parts => parts.flatMap (PathPart.filled vars)

def Segment.filled (vars : Bindings) : Segment → Segment
  | .literal t => .literal t
  | .var v => .literal (vars.value v.name)
  | .secret p raw => .secret (.path (p.filled vars)) raw

def Segment.lookup? (vars : Bindings) : Segment → Option Text
  | .literal _ => none
  | .var _ => none
  | .secret p _ => some (p.filled vars)

/-- What a path needs so that it can be filled: values for its variables, and with them it has to
be a path. One without variables has been checked when it was read. -/
def SecretPath.Fillable (vars : Bindings) : SecretPath → Prop
  | .path _ => True
  | .pattern parts =>
    (∀ n ∈ (SecretPath.pattern parts).variableNames, n ∈ vars.keys) ∧
      Text.isPath ((SecretPath.pattern parts).filled vars) = true

def Segment.Fillable (vars : Bindings) : Segment → Prop
  | .literal _ => True
  | .var v => v.name ∈ vars.keys
  | .secret p _ => p.Fillable vars

def Template.filled (vars : Bindings) (t : Template) : Template :=
  ⟨t.segments.map (Segment.filled vars)⟩

theorem Bindings.value_eq {vars : Bindings} {n v : Text} (h : vars.get? n = some v) :
    vars.value n = v := by
  unfold Bindings.value
  rw [h]
  rfl

@[simp] theorem Segment.secret?_filled (vars : Bindings) (s : Segment) :
    (s.filled vars).secret? = s.lookup? vars := by
  cases s <;> rfl

theorem Template.lookups_filled (vars : Bindings) (t : Template) :
    (t.filled vars).lookups = t.segments.filterMap (Segment.lookup? vars) := by
  unfold Template.lookups Template.filled
  rw [List.filterMap_map]
  congr 1
  funext s
  exact Segment.secret?_filled vars s

/-! ## 2. Paths -/

namespace Template

variable {vars : Bindings}

theorem valueOf_of_mem {n : Text} (h : n ∈ vars.keys) : valueOf vars n = .ok (vars.value n) := by
  obtain ⟨v, hv⟩ := OrderedMap.mem_keys_iff.1 h
  unfold valueOf
  rw [hv, Bindings.value_eq hv]

theorem valueOf_of_not_mem {n : Text} (h : n ∉ vars.keys) :
    valueOf vars n = .error (.undefinedVariable n) := by
  unfold valueOf
  rw [OrderedMap.get?_eq_none_iff.2 h]

/-- A pattern whose variables all have values is joined to a text. -/
theorem flatten_of_mem {parts : List PathPart}
    (h : ∀ n ∈ parts.filterMap PathPart.embedded?, n ∈ vars.keys) :
    flatten vars parts = .ok (parts.flatMap (PathPart.filled vars)) := by
  induction parts with
  | nil => rfl
  | cons p ps ih =>
    cases p with
    | text t =>
      have hps := ih fun n hn => h n (by simpa [PathPart.embedded?] using hn)
      rw [flatten, hps, List.flatMap_cons, PathPart.filled]
    | var v =>
      have hv : v.name ∈ vars.keys := h v.name (by simp [PathPart.embedded?])
      have hps := ih fun n hn => h n (by
        rw [List.filterMap_cons]
        exact List.mem_cons_of_mem _ hn)
      rw [flatten, valueOf_of_mem hv, hps, List.flatMap_cons, PathPart.filled]

/-- The variable that is reported missing is the first in the path that lacks a value. -/
theorem flatten_of_find? {parts : List PathPart} {n : Text}
    (h : (parts.filterMap PathPart.embedded?).find? (fun n => n ∉ vars.keys) = some n) :
    flatten vars parts = .error (.undefinedVariable n) := by
  induction parts with
  | nil => simp at h
  | cons p ps ih =>
    cases p with
    | text t =>
      have hps := ih (by simpa [PathPart.embedded?] using h)
      rw [flatten, hps]
    | var v =>
      rw [List.filterMap_cons_some (rfl : (PathPart.var v).embedded? = some v.name)] at h
      -- the first variable without a value is this one or stands further on
      by_cases hv : v.name ∈ vars.keys
      · have hps := ih (by simpa [hv] using h)
        rw [flatten, valueOf_of_mem hv, hps]
      · have hn : v.name = n := by simpa [hv] using h
        rw [flatten, valueOf_of_not_mem hv, hn]

/-! ## 3. Segments -/

theorem substituteSegment_of_fillable {s : Segment} (h : s.Fillable vars) :
    substituteSegment vars s = .ok (s.filled vars) := by
  cases s with
  | literal t => rfl
  | var v =>
    have hv : v.name ∈ vars.keys := h
    rw [substituteSegment, valueOf_of_mem hv]
    rfl
  | secret p raw =>
    cases p with
    | path p => rfl
    | pattern parts =>
      obtain ⟨hnames, hpath⟩ := h
      have hcheck : checkPath (parts.flatMap (PathPart.filled vars)) = .ok () := if_pos hpath
      rw [substituteSegment, flatten_of_mem hnames]
      simp only [hcheck]
      rfl

/-- Why a segment cannot be filled: the first of its variables without a value, or else its path. -/
theorem substituteSegment_of_not_fillable {s : Segment} (h : ¬ s.Fillable vars) :
    (∃ n, s.variableNames.find? (fun n => n ∉ vars.keys) = some n ∧
      substituteSegment vars s = .error (.undefinedVariable n)) ∨
    ((∀ n ∈ s.variableNames, n ∈ vars.keys) ∧ ∃ p, s.lookup? vars = some p ∧
      Text.isPath p = false ∧ substituteSegment vars s = .error (.badPath p)) := by
  cases s with
  | literal t => exact absurd trivial h
  | var v =>
    have hv : v.name ∉ vars.keys := h
    refine .inl ⟨v.name, by simp [Segment.variableNames, hv], ?_⟩
    rw [substituteSegment, valueOf_of_not_mem hv]
  | secret p raw =>
    cases p with
    | path p => exact absurd trivial h
    | pattern parts =>
      -- a variable without a value is found before the path is looked at
      cases hfind : (parts.filterMap PathPart.embedded?).find? (fun n => n ∉ vars.keys) with
      | some n =>
        refine .inl ⟨n, hfind, ?_⟩
        rw [substituteSegment, flatten_of_find? hfind]
      | none =>
        have hnames : ∀ n ∈ parts.filterMap PathPart.embedded?, n ∈ vars.keys := by
          intro n hn
          simpa using List.find?_eq_none.1 hfind n hn
        have hpath : Text.isPath (parts.flatMap (PathPart.filled vars)) = false := by
          rw [Bool.eq_false_iff]
          exact fun hp => h ⟨hnames, hp⟩
        have hcheck : checkPath (parts.flatMap (PathPart.filled vars)) =
            .error (.badPath (parts.flatMap (PathPart.filled vars))) := by
          unfold checkPath
          rw [if_neg (by simp [hpath])]
        refine .inr ⟨hnames, _, rfl, hpath, ?_⟩
        rw [substituteSegment, flatten_of_mem hnames]
        simp only [hcheck]
        rfl

/-- A segment is filled exactly if it can be, and then as `filled` says. -/
theorem substituteSegment_eq_ok_iff {s s' : Segment} :
    substituteSegment vars s = .ok s' ↔ s.Fillable vars ∧ s.filled vars = s' := by
  -- both sides are settled by whether the segment can be filled
  by_cases h : s.Fillable vars
  · rw [substituteSegment_of_fillable h]
    simp [h]
  · rcases substituteSegment_of_not_fillable h with ⟨n, -, he⟩ | ⟨-, p, -, -, he⟩ <;> simp [h, he]

/-- A segment is refused for a variable without a value or for what is no path. -/
theorem fault_of_substituteSegment {s : Segment} {f : Fault}
    (h : substituteSegment vars s = .error f) :
    (∃ n, n ∈ s.variableNames ∧ n ∉ vars.keys ∧ f = .undefinedVariable n) ∨
      ∃ p, s.lookup? vars = some p ∧ Text.isPath p = false ∧ f = .badPath p := by
  have hs : ¬ s.Fillable vars := fun hs => by
    rw [substituteSegment_of_fillable hs] at h
    cases h
  rcases substituteSegment_of_not_fillable hs with ⟨n, hn, he⟩ | ⟨-, p, hp, hpath, he⟩
  · rw [he] at h
    have hmem := List.mem_of_find?_eq_some hn
    have hkeys := List.find?_some hn
    exact .inl ⟨n, hmem, by simpa using hkeys, (Except.error.inj h).symm⟩
  · rw [he] at h
    exact .inr ⟨p, hp, hpath, (Except.error.inj h).symm⟩

/-! ## 4. Templates -/

/-- Segments are filled one after the other. -/
theorem substitute_eq_mapM (ss : List Segment) :
    substitute vars ss = ss.mapM (substituteSegment vars) := by
  induction ss with
  | nil => rfl
  | cons s ss ih =>
    rw [substitute]
    cases hs : substituteSegment vars s with
    | error f => rw [mapM_cons_error_head hs]
    | ok s' =>
      cases hss : substitute vars ss with
      | error f => rw [mapM_cons_error_tail hs (ih.symm.trans hss)]
      | ok ss' => rw [mapM_cons_ok hs (ih.symm.trans hss)]

theorem substitute_eq_ok_iff {ss ss' : List Segment} :
    substitute vars ss = .ok ss' ↔
      (∀ s ∈ ss, s.Fillable vars) ∧ ss' = ss.map (Segment.filled vars) := by
  rw [substitute_eq_mapM]
  exact mapM_eq_ok_iff_map fun _ _ _ => substituteSegment_eq_ok_iff

theorem substitute_eq_error_iff {ss : List Segment} {f : Fault} :
    substitute vars ss = .error f ↔ RefusedAt (substituteSegment vars) ss f := by
  rw [substitute_eq_mapM]
  exact mapM_eq_error_iff

theorem badName?_eq_none_iff : vars.badName? = none ↔ ∀ n ∈ vars.keys, Text.isName n = true := by
  unfold Bindings.badName?
  simp

/-- The bad name that is reported is one of the names. -/
theorem mem_of_badName? {n : Text} (h : vars.badName? = some n) :
    n ∈ vars.keys ∧ Text.isName n = false :=
  ⟨List.mem_of_find?_eq_some h, by simpa using List.find?_some h⟩

theorem inject_of_badName? {n : Text} (h : vars.badName? = some n) (t : Template) :
    t.inject vars = .error (.badName n) := by
  unfold inject
  rw [h]

theorem inject_of_fillable (hn : vars.badName? = none) {t : Template}
    (h : ∀ s ∈ t.segments, s.Fillable vars) : t.inject vars = .ok (t.filled vars) := by
  unfold inject
  rw [hn, substitute_eq_ok_iff.2 ⟨h, rfl⟩]
  rfl

theorem inject_eq_error_iff (hn : vars.badName? = none) {t : Template} {f : Fault} :
    t.inject vars = .error f ↔ RefusedAt (substituteSegment vars) t.segments f := by
  rw [← substitute_eq_error_iff]
  unfold inject
  rw [hn]
  cases substitute vars t.segments <;> simp

/-- Injection succeeds exactly when every name is an identifier and every segment can be filled. -/
theorem inject_eq_ok_iff {t t' : Template} :
    t.inject vars = .ok t' ↔
      (∀ n ∈ vars.keys, Text.isName n = true) ∧ (∀ s ∈ t.segments, s.Fillable vars) ∧
        t' = t.filled vars := by
  rw [← badName?_eq_none_iff]
  constructor
  · intro h
    cases hn : vars.badName? with
    | some n =>
      rw [inject_of_badName? hn] at h
      cases h
    | none =>
      -- names are checked before segments, whether they are used or not
      have hs : ∀ s ∈ t.segments, s.Fillable vars := by
        unfold inject at h
        rw [hn] at h
        cases hss : substitute vars t.segments with
        | error f => simp [hss] at h
        | ok ss => exact (substitute_eq_ok_iff.1 hss).1
      rw [inject_of_fillable hn hs] at h
      exact ⟨rfl, hs, (Except.ok.inj h).symm⟩
  · rintro ⟨hn, hs, rfl⟩
    exact inject_of_fillable hn hs

/-- A template is refused for a bad name, a variable without a value or what is no path. -/
theorem fault_of_inject {t : Template} {f : Fault} (h : t.inject vars = .error f) :
    (∃ n, vars.badName? = some n ∧ f = .badName n) ∨ (∃ n, f = .undefinedVariable n) ∨
      ∃ p, Text.isPath p = false ∧ f = .badPath p := by
  cases hn : vars.badName? with
  | some n =>
    rw [inject_of_badName? hn] at h
    exact .inl ⟨n, rfl, (Except.error.inj h).symm⟩
  | none =>
    obtain ⟨s, -, hs⟩ := ((inject_eq_error_iff hn).1 h).exists_mem
    rcases fault_of_substituteSegment hs with ⟨n, -, -, hf⟩ | ⟨p, -, hp, hf⟩
    · exact .inr (.inl ⟨n, hf⟩)
    · exact .inr (.inr ⟨p, hp, hf⟩)

end Template

end SecretWeave
