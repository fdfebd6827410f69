import SecretWeave.Template.Basic
import SecretWeave.Text.Utf8

/-!
# Filling templates

A template is filled in two steps. First every variable gives way to its value; what is left is
text and references with paths (`inject`). Then every reference gives way to the value that was
fetched for its path (`resolve`). Values are never read as template text.

Main facts: a successful first step leaves no variables (`variableNames_of_substitute`) and the
second step does not look at values it does not need (`resolve_congr`).
-/

namespace SecretWeave

abbrev Bindings := OrderedMap Text Text

abbrev Secrets := OrderedMap Text Bytes

def checkName (name : Text) : Except Fault Unit :=
  if Text.isName name then .ok () else .error (.badName name)

def checkPath (path : Text) : Except Fault Unit :=
  if Text.isPath path then .ok () else .error (.badPath path)

def Bindings.badName? (vars : Bindings) : Option Text :=
  vars.keys.find? fun n => !Text.isName n

namespace Template

/-! ## 1. Variables -/

def valueOf (vars : Bindings) (name : Text) : Except Fault Text :=
  match vars.get? name with
  | some v => .ok v
  | none => .error (.undefinedVariable name)

def flatten (vars : Bindings) : List PathPart → Except Fault Text
  | [] => .ok []
  | .text t :: ps =>
    match flatten vars ps with
    | .ok r => .ok (t ++ r)
    | .error f => .error f
  | .var v :: ps =>
    match valueOf vars v.name with
    | .error f => .error f
    | .ok value =>
      match flatten vars ps with
      | .ok r => .ok (value ++ r)
      | .error f => .error f

def substituteSegment (vars : Bindings) : Segment → Except Fault Segment
  | .literal t => .ok (.literal t)
  | .var v =>
    match valueOf vars v.name with
    | .ok value => .ok (.literal value)
    | .error f => .error f
  | .secret (.path p) raw => .ok (.secret (.path p) raw)
  | .secret (.pattern parts) raw =>
    match flatten vars parts with
    | .error f => .error f
    | .ok p =>
      match checkPath p with
      | .error f => .error f
      | .ok () => .ok (.secret (.path p) raw)

/-- Segments with their variables replaced, up to the first that cannot be. -/
def substitute (vars : Bindings) : List Segment → Except Fault (List Segment)
  | [] => .ok []
  | s :: ss =>
    match substituteSegment vars s with
    | .error f => .error f
    | .ok s' =>
      match substitute vars ss with
      | .error f => .error f
      | .ok ss' => .ok (s' :: ss')

/-- The template with every variable replaced by its value. Every name of the mapping has to be an
identifier, whether the template uses it or not. -/
def inject (vars : Bindings) (t : Template) : Except Fault Template :=
  match vars.badName? with
  | some n => .error (.badName n)
  | none =>
    match substitute vars t.segments with
    | .error f => .error f
    | .ok ss => .ok ⟨ss⟩

theorem variableNames_of_substituteSegment {vars : Bindings} {s s' : Segment}
    (h : substituteSegment vars s = .ok s') : s'.variableNames = [] := by
  cases s with
  | literal t =>
    obtain rfl := Except.ok.inj h
    rfl
  | var v =>
    simp only [substituteSegment] at h
    split at h
    · obtain rfl := Except.ok.inj h
      rfl
    · simp at h
  | secret p raw =>
    cases p with
    | path p =>
      obtain rfl := Except.ok.inj h
      rfl
    | pattern parts =>
      simp only [substituteSegment] at h
      split at h
      · simp at h
      · split at h
        · simp at h
        · obtain rfl := Except.ok.inj h
          rfl

theorem variableNames_of_substitute {vars : Bindings} {ss ss' : List Segment}
    (h : substitute vars ss = .ok ss') : ss'.flatMap Segment.variableNames = [] := by
  induction ss generalizing ss' with
  | nil =>
    obtain rfl := Except.ok.inj h
    rfl
  | cons s ss ih =>
    simp only [substitute] at h
    split at h
    · simp at h
    · rename_i s₁ hs
      split at h
      · simp at h
      · rename_i ss₁ hss
        obtain rfl := Except.ok.inj h
        simp [variableNames_of_substituteSegment hs, ih hss]

/-! ## 2. Secrets -/

def resolveSegment (secrets : Secrets) : Segment → Except Fault Text
  | .literal t => .ok t
  | .var v => .error (.undefinedVariable v.name)
  | .secret (.path p) _ =>
    match secrets.get? p with
    | some value => .ok (Text.decode value)
    | none => .error (.missingSecret p)
  | .secret (.pattern parts) _ =>
    .error (.undefinedVariable ((SecretPath.pattern parts).variableNames.headD []))

def resolveSegments (secrets : Secrets) : List Segment → Except Fault Text
  | [] => .ok []
  | s :: ss =>
    match resolveSegment secrets s with
    | .error f => .error f
    | .ok t =>
      match resolveSegments secrets ss with
      | .error f => .error f
      | .ok r => .ok (t ++ r)

def resolve (secrets : Secrets) (t : Template) : Except Fault Text :=
  resolveSegments secrets t.segments

theorem resolveSegment_congr {s₁ s₂ : Secrets} {s : Segment}
    (h : ∀ p, s.secret? = some p → s₁.get? p = s₂.get? p) :
    resolveSegment s₁ s = resolveSegment s₂ s := by
  cases s with
  | literal t => rfl
  | var v => rfl
  | secret p raw =>
    cases p with
    | path p => simp only [resolveSegment, h p rfl]
    | pattern parts => rfl

theorem resolve_congr {s₁ s₂ : Secrets} {t : Template}
    (h : ∀ p ∈ t.secrets, s₁.get? p = s₂.get? p) : t.resolve s₁ = t.resolve s₂ := by
  have key : ∀ ss : List Segment, (∀ p ∈ ss.filterMap Segment.secret?, s₁.get? p = s₂.get? p) →
      resolveSegments s₁ ss = resolveSegments s₂ ss := by
    intro ss
    induction ss with
    | nil => intro _; rfl
    | cons s ss ih =>
      intro hss
      have hs : resolveSegment s₁ s = resolveSegment s₂ s :=
        resolveSegment_congr fun p hp =>
          hss p (List.mem_filterMap.2 ⟨s, by simp, hp⟩)
      have hr : resolveSegments s₁ ss = resolveSegments s₂ ss :=
        ih fun p hp => hss p <| by
          obtain ⟨x, hx, hxp⟩ := List.mem_filterMap.1 hp
          exact List.mem_filterMap.2 ⟨x, by simp [hx], hxp⟩
      simp only [resolveSegments, hs, hr]
  exact key t.segments fun p hp => h p (mem_distinct.2 hp)

end Template

end SecretWeave
