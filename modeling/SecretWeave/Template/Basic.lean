import SecretWeave.Fault
import SecretWeave.OrderedMap
import SecretWeave.Text.Name

/-!
# Templates

A template is a sequence of segments: plain text, references to variables and references to
secrets. A secret is referenced by a path, or by a pattern, a path that still embeds variables.
References remember how they were written, so that a template can be shown as it was.

Main facts: `mem_secrets` and `mem_variableNames` say what the lists of referenced secrets and
variables hold, and neither list repeats itself (`nodup_secrets`, `nodup_variableNames`).
-/

namespace SecretWeave

structure Variable where
  name : Text
  raw : Text
  deriving DecidableEq, Repr

inductive PathPart where
  | text (t : Text)
  | var (v : Variable)
  deriving DecidableEq, Repr

inductive SecretPath where
  | path (p : Text)
  | pattern (parts : List PathPart)
  deriving DecidableEq, Repr

inductive Segment where
  | literal (t : Text)
  | var (v : Variable)
  | secret (p : SecretPath) (raw : Text)
  deriving DecidableEq, Repr

structure Template where
  segments : List Segment
  deriving DecidableEq, Repr, Inhabited

/-! ## 1. Showing -/

def PathPart.source : PathPart → Text
  | .text t => t
  | .var v => v.raw

def Segment.source : Segment → Text
  | .literal t => t
  | .var v => v.raw
  | .secret _ raw => raw

namespace Template

def literal (t : Text) : Template :=
  if t.isEmpty then ⟨[]⟩ else ⟨[.literal t]⟩

def source (t : Template) : Text :=
  t.segments.flatMap Segment.source

def isEmpty (t : Template) : Bool :=
  t.segments.isEmpty

end Template

/-! ## 2. What is referenced -/

def Segment.secret? : Segment → Option Text
  | .secret (.path p) _ => some p
  | _ => none

def PathPart.embedded? : PathPart → Option Text
  | .text _ => none
  | .var v => some v.name

def SecretPath.variableNames : SecretPath → List Text
  | .path _ => []
  | .pattern parts => parts.filterMap PathPart.embedded?

def Segment.variableNames : Segment → List Text
  | .literal _ => []
  | .var v => [v.name]
  | .secret p _ => p.variableNames

namespace Template

def lookups (t : Template) : List Text :=
  t.segments.filterMap Segment.secret?

def secrets (t : Template) : List Text :=
  distinct t.lookups

/-- The distinct variables, those inside paths included, in order of first use. -/
def variableNames (t : Template) : List Text :=
  distinct (t.segments.flatMap Segment.variableNames)

theorem mem_secrets {t : Template} {p : Text} :
    p ∈ t.secrets ↔ ∃ raw, Segment.secret (.path p) raw ∈ t.segments := by
  simp only [secrets, lookups, mem_distinct, List.mem_filterMap]
  constructor
  · rintro ⟨s, hs, h⟩
    cases s with
    | literal _ => simp [Segment.secret?] at h
    | var _ => simp [Segment.secret?] at h
    | secret q raw =>
      cases q with
      | path q =>
        simp only [Segment.secret?, Option.some.injEq] at h
        exact ⟨raw, h ▸ hs⟩
      | pattern _ => simp [Segment.secret?] at h
  · rintro ⟨raw, h⟩
    exact ⟨_, h, rfl⟩

theorem mem_variableNames {t : Template} {n : Text} :
    n ∈ t.variableNames ↔ ∃ s ∈ t.segments, n ∈ s.variableNames := by
  simp [variableNames, mem_distinct]

theorem nodup_secrets (t : Template) : t.secrets.Nodup :=
  nodup_distinct _

theorem nodup_variableNames (t : Template) : t.variableNames.Nodup :=
  nodup_distinct _

end Template

end SecretWeave
