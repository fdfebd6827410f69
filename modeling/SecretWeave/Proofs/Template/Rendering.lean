import SecretWeave.Inject
import SecretWeave.Proofs.Fetching
import SecretWeave.Proofs.Template.Substitution

/-!
# What a template demands and renders

A template whose variables are replaced is rendered as soon as every path it looks up has a value:
each segment gives its text, in order. Injecting a text is thus asking for the paths that its
template demands and answering with the rendered text (`inject_eq_ask`).
-/

namespace SecretWeave

def Segment.rendered (vars : Bindings) (values : Text → Bytes) : Segment → Text
  | .literal t => t
  | .var v => vars.value v.name
  | .secret p _ => Text.decode (values (p.filled vars))

namespace Template

/-- The paths that a template looks up once its variables are replaced, with repetitions. -/
def uses (vars : Bindings) (t : Template) : List Text :=
  t.segments.filterMap (Segment.lookup? vars)

def demand (vars : Bindings) (t : Template) : List Text :=
  distinct (t.uses vars)

def rendered (vars : Bindings) (values : Text → Bytes) (t : Template) : Text :=
  t.segments.flatMap (Segment.rendered vars values)

variable {vars : Bindings} {values : Secrets} {f : Text → Bytes}

/-! ## 1. Rendering -/

/-- Segments are resolved one after the other. -/
theorem resolveSegments_eq_mapM (values : Secrets) (ss : List Segment) :
    resolveSegments values ss = (ss.mapM (resolveSegment values)).map List.flatten := by
  induction ss with
  | nil => rfl
  | cons s ss ih =>
    rw [resolveSegments, ih]
    cases hs : resolveSegment values s with
    | error f => rw [mapM_cons_error_head hs, Except.map]
    | ok x =>
      rw [mapM_cons_map hs]
      cases ss.mapM (resolveSegment values) <;> rfl

/-- A template fails to be resolved for the first of its segments that cannot be. -/
theorem resolve_eq_error_iff {t : Template} {g : Fault} :
    t.resolve values = .error g ↔ RefusedAt (resolveSegment values) t.segments g := by
  rw [← mapM_eq_error_iff, resolve, resolveSegments_eq_mapM]
  cases t.segments.mapM (resolveSegment values) <;> simp [Except.map]

theorem mem_keys_of_resolveSegment {seg : Segment} {out p : Text}
    (h : resolveSegment values seg = .ok out) (hp : seg.secret? = some p) : p ∈ values.keys := by
  cases seg with
  | literal t => cases hp
  | var v => cases hp
  | secret path raw =>
    cases path with
    | pattern parts => cases hp
    | path q =>
      obtain rfl := Option.some.inj hp
      rw [OrderedMap.mem_keys_iff]
      cases hv : values.get? q with
      | none => simp only [resolveSegment, hv] at h; cases h
      | some v => exact ⟨v, rfl⟩

theorem resolveSegment_filled {s : Segment}
    (h : ∀ p, s.lookup? vars = some p → values.get? p = some (f p)) :
    resolveSegment values (s.filled vars) = .ok (s.rendered vars f) := by
  cases s with
  | literal t => rfl
  | var v => rfl
  | secret p raw =>
    rw [Segment.filled, resolveSegment, h (p.filled vars) rfl]
    rfl

/-- With all secrets at hand, filled segments are resolved to what they say. -/
theorem resolveSegments_filled {ss : List Segment}
    (h : ∀ p ∈ ss.filterMap (Segment.lookup? vars), values.get? p = some (f p)) :
    resolveSegments values (ss.map (Segment.filled vars)) =
      .ok (ss.flatMap (Segment.rendered vars f)) := by
  induction ss with
  | nil => rfl
  | cons s ss ih =>
    have hs : ∀ p, s.lookup? vars = some p → values.get? p = some (f p) := by
      intro p hp
      exact h p (List.mem_filterMap.2 ⟨s, by simp, hp⟩)
    have hss : ∀ p ∈ ss.filterMap (Segment.lookup? vars), values.get? p = some (f p) := by
      intro p hp
      obtain ⟨x, hx, hxp⟩ := List.mem_filterMap.1 hp
      exact h p (List.mem_filterMap.2 ⟨x, by simp [hx], hxp⟩)
    rw [List.map_cons, resolveSegments, resolveSegment_filled hs, ih hss, List.flatMap_cons]

theorem resolve_filled {t : Template} (h : ∀ p ∈ t.uses vars, values.get? p = some (f p)) :
    (t.filled vars).resolve values = .ok (t.rendered vars f) :=
  resolveSegments_filled h

/-- What is collected from a filled template is what the template needs. -/
theorem secrets_filled (vars : Bindings) (t : Template) :
    (t.filled vars).secrets = t.demand vars := by
  rw [secrets, lookups_filled]
  rfl

/-! ## 2. Injecting -/

/-- The distinct paths that a text needs, in order of first use, if it can be read and filled. -/
def needs (v : Version) (vars : Bindings) (s : Text) : Except Failure (List Text) :=
  match parse v s with
  | .error g => .error (.template g)
  | .ok t =>
    match t.inject vars with
    | .error g => .error (.ofUsage g)
    | .ok _ => .ok (t.demand vars)

variable {v : Version} {look : Lookup} {s : Text} {e : Failure} {ps : List Text}

/-- What leaves a template without needs is answered as it is, and nothing is asked for. -/
theorem inject_of_needs_error (h : needs v vars s = .error e) :
    SecretWeave.inject v vars look s = ⟨[], .error e⟩ := by
  have hprep : prepare v vars s = .error e := by
    -- whatever keeps the needs from being known keeps the text from being prepared
    unfold needs at h
    unfold prepare
    cases hp : parse v s with
    | error g =>
      simp only [hp] at h
      obtain rfl := Except.error.inj h
      rfl
    | ok t =>
      cases hi : t.inject vars with
      | error g =>
        simp only [hp, hi] at h
        obtain rfl := Except.error.inj h
        simp only [hi]
      | ok t' => simp only [hp, hi] at h; cases h
  rw [SecretWeave.inject, hprep]
  rfl

/-- A template with needs can be read and filled. -/
theorem exists_of_needs (h : needs v vars s = .ok ps) :
    ∃ t, parse v s = .ok t ∧ (∃ t', t.inject vars = .ok t') ∧ ps = t.demand vars := by
  unfold needs at h
  cases hp : parse v s with
  | error g => simp only [hp] at h; cases h
  | ok t =>
    cases hi : t.inject vars with
    | error g => simp only [hp, hi] at h; cases h
    | ok t' =>
      simp only [hp, hi] at h
      exact ⟨t, rfl, ⟨t', hi⟩, (Except.ok.inj h).symm⟩

theorem prepare_eq_ok_iff {t' : Template} :
    prepare v vars s = .ok t' ↔ ∃ t, parse v s = .ok t ∧ t.inject vars = .ok t' := by
  unfold prepare
  cases hp : parse v s with
  | error g => simp
  | ok t =>
    cases hi : t.inject vars with
    | error g => simp [hi]
    | ok t₁ => simp [hi]

/-- A text that is read and filled is asked for and rendered. -/
theorem inject_eq_ask {t t' : Template} (h : parse v s = .ok t) (hi : t.inject vars = .ok t') :
    SecretWeave.inject v vars look s =
      look.ask (t.demand vars) (t.rendered vars look.value) := by
  obtain rfl := (inject_eq_ok_iff.1 hi).2.2
  have hprep : prepare v vars s = .ok (t.filled vars) := prepare_eq_ok_iff.2 ⟨t, h, hi⟩
  rw [SecretWeave.inject, hprep]
  show (fetch look (t.filled vars).secrets).andThen _ = _
  rw [secrets_filled]
  apply fetch_andThen_eq_ask
  intro values hvalues
  -- rendering needs no more than the paths that were asked for
  rw [resolve_filled fun p hp => hvalues p (mem_distinct.2 hp)]
  rfl

theorem inject_of_inject_error {t : Template} {f : Fault} (h : parse v s = .ok t)
    (hi : t.inject vars = .error f) : SecretWeave.inject v vars look s = ⟨[], .error (.ofUsage f)⟩ := by
  apply inject_of_needs_error
  rw [needs, h]
  simp only [hi]

theorem inject_of_needs_ok (look : Lookup) (h : needs v vars s = .ok ps) :
    ∃ t, parse v s = .ok t ∧ ps = t.demand vars ∧
      SecretWeave.inject v vars look s = look.ask ps (t.rendered vars look.value) := by
  obtain ⟨t, hp, ⟨t', hi⟩, rfl⟩ := exists_of_needs h
  exact ⟨t, hp, rfl, inject_eq_ask hp hi⟩

end Template

end SecretWeave
