import SecretWeave.Proofs.Meaning
import SecretWeave.Proofs.Template.Blame

/-!
# Sound templates

What is read from a text is sound: variables are named by identifiers, paths are paths, and what
still embeds variables is made of these and of text that a path may hold. Replacing variables keeps
a template sound and leaves no variable behind (`sound_of_inject`), so this holds of all templates
that can be reached (`Reached.sound`).
-/

namespace SecretWeave

/-! ## 1. Soundness -/

/-- Parts that a path may have: text that is not empty and holds neither blanks nor controls, and
variables that are named by identifiers. -/
def PathPart.Sound : PathPart → Prop
  | .text t => t ≠ [] ∧ ∀ c ∈ t, Text.isSolid c = true
  | .var v => Text.isName v.name = true

/-- What a secret may be referenced by: a path, or sound parts with a variable among them. -/
def SecretPath.Sound : SecretPath → Prop
  | .path p => Text.isPath p = true
  | .pattern parts => (∀ p ∈ parts, p.Sound) ∧ ∃ v, PathPart.var v ∈ parts

def Segment.Sound : Segment → Prop
  | .literal _ => True
  | .var v => Text.isName v.name = true
  | .secret p _ => p.Sound

namespace Template

def Sound (t : Template) : Prop :=
  ∀ s ∈ t.segments, s.Sound

def Settled (t : Template) : Prop :=
  ∀ s ∈ t.segments, (∀ v, s ≠ .var v) ∧ ∀ parts raw, s ≠ .secret (.pattern parts) raw

/-- The templates that come from a text by replacing variables `n` times, by whatever values. -/
inductive Reached (v : Version) : Nat → Template → Prop
  | read {s : Text} {t : Template} (h : parse v s = .ok t) : Reached v 0 t
  | filled {n : Nat} {t t' : Template} {vars : Bindings} (h : Reached v n t)
      (hi : t.inject vars = .ok t') : Reached v (n + 1) t'

end Template

/-! ## 2. What is read -/

namespace Brackets

variable {bs : Brackets} {content raw : Text}

theorem sound_pathPart {p : Piece} (hp : p ∈ bs.inner content) (h : p.fitsPath = true) :
    p.pathPart.Sound := by
  cases p with
  | literal text raw =>
    have hraw : raw ≠ [] := raw_ne_nil_of_mem_cut hp
    exact ⟨(unmarked_of_mem_cut hp).ne_nil hraw, List.all_eq_true.1 h⟩
  | tag b content raw line => exact h

theorem Meaningful.fitsPath (h : bs.Meaningful content)
    (hname : Text.isName (Text.trim content) = false) :
    ∀ p ∈ bs.inner content, p.fitsPath = true := by
  rcases h with h | ⟨hfit, -⟩
  · rw [hname] at h
    cases h
  · exact hfit

theorem eq_map_of_secretPath {parts : List PathPart} (h : bs.secretPath content = .pattern parts) :
    parts = (bs.inner content).map Piece.pathPart ∧ ∃ p ∈ bs.inner content, p.isTag = true := by
  unfold secretPath at h
  split at h
  · rename_i htag
    exact ⟨(SecretPath.pattern.inj h).symm, List.any_eq_true.1 htag⟩
  · cases h

/-- The path of a meaningful reference is sound. -/
theorem sound_secretPath (hname : Text.isName (Text.trim content) = false)
    (h : bs.Meaningful content) : (bs.secretPath content).Sound := by
  cases hp : bs.secretPath content with
  | path p => exact isPath_of_meaningful hname h hp
  | pattern parts =>
    obtain ⟨rfl, p, hmem, htag⟩ := eq_map_of_secretPath hp
    refine ⟨?_, ?_⟩
    · rw [List.forall_mem_map]
      exact fun q hq => sound_pathPart hq (h.fitsPath hname q hq)
    · -- a tag among the pieces is a variable among the parts
      cases p with
      | literal text raw => cases htag
      | tag b content raw line => exact ⟨_, List.mem_map.2 ⟨_, hmem, rfl⟩⟩

/-- What is read from a readable piece is sound. -/
theorem sound_segment {p : Piece} (h : bs.Readable p) : (bs.segment p).Sound := by
  cases p with
  | literal text raw => trivial
  | tag b content raw line =>
    cases hname : Text.isName (Text.trim content) with
    | true =>
      rw [segment, if_pos hname]
      exact hname
    | false =>
      rw [segment_reference hname]
      exact sound_secretPath hname h

end Brackets

namespace Template

variable {v : Version} {vars : Bindings} {s : Text} {t t' : Template}

theorem sound_of_parse (h : parse v s = .ok t) : t.Sound := by
  obtain ⟨-, hread, hseg⟩ := parse_eq_ok_iff.1 h
  unfold Sound
  rw [hseg, List.forall_mem_map]
  exact fun p hp => Brackets.sound_segment (hread p hp)

/-! ## 3. What is filled -/

/-- Filling keeps a segment sound. -/
theorem sound_filled {g : Segment} (h : g.Sound) (hg : g.Fillable vars) : (g.filled vars).Sound := by
  cases g with
  | literal text => trivial
  | var v => trivial
  | secret p raw =>
    cases p with
    | path p => exact h
    | pattern parts => exact hg.2

theorem sound_of_inject (h : t.Sound) (hi : t.inject vars = .ok t') : t'.Sound := by
  obtain ⟨-, hfill, rfl⟩ := inject_eq_ok_iff.1 hi
  unfold Sound filled
  rw [List.forall_mem_map]
  exact fun g hg => sound_filled (h g hg) (hfill g hg)

theorem settled_of_inject (hi : t.inject vars = .ok t') : t'.Settled := by
  obtain ⟨-, -, rfl⟩ := inject_eq_ok_iff.1 hi
  unfold Settled filled
  rw [List.forall_mem_map]
  intro g _
  cases g <;> simp [Segment.filled]

variable {n : Nat}

theorem Reached.sound (h : Reached v n t) : t.Sound := by
  induction h with
  | read h => exact sound_of_parse h
  | filled _ hi ih => exact sound_of_inject ih hi

theorem Reached.settled (h : Reached v (n + 1) t) : t.Settled := by
  cases h with
  | filled _ hi => exact settled_of_inject hi

/-! ## 4. What cannot go wrong -/

theorem isPath_of_mem_secrets (h : t.Sound) {p : Text} (hp : p ∈ t.secrets) :
    Text.isPath p = true := by
  obtain ⟨raw, hmem⟩ := mem_secrets.1 hp
  exact h _ hmem

/-- The variables of a sound template have identifiers as names. -/
theorem isName_of_mem_variableNames (h : t.Sound) {name : Text} (hn : name ∈ t.variableNames) :
    Text.isName name = true := by
  obtain ⟨g, hg, hn⟩ := mem_variableNames.1 hn
  have hsound := h g hg
  cases g with
  | literal text => cases hn
  | var v =>
    obtain rfl := List.mem_singleton.1 hn
    exact hsound
  | secret p raw =>
    cases p with
    | path p => cases hn
    | pattern parts =>
      obtain ⟨part, hpart, hname⟩ := List.mem_filterMap.1 hn
      cases part with
      | text t => cases hname
      | var v =>
        obtain rfl := Option.some.inj hname
        exact hsound.1 _ hpart

/-- An undefined variable that is reported occurs in the segment. -/
theorem mem_of_resolveSegment {values : Secrets} {g : Segment} (hsound : g.Sound) {name : Text}
    (h : resolveSegment values g = .error (.undefinedVariable name)) : name ∈ g.variableNames := by
  cases g with
  | literal text => cases h
  | var v =>
    obtain rfl := Fault.undefinedVariable.inj (Except.error.inj h)
    exact List.mem_cons_self
  | secret p raw =>
    cases p with
    | path p =>
      rw [resolveSegment] at h
      split at h <;> cases h
    | pattern parts =>
      obtain rfl := Fault.undefinedVariable.inj (Except.error.inj h)
      -- there is a variable, so the name that stands for none is not used
      obtain ⟨-, x, hx⟩ := hsound
      have hmem : x.name ∈ (SecretPath.pattern parts).variableNames :=
        List.mem_filterMap.2 ⟨_, hx, rfl⟩
      show (SecretPath.pattern parts).variableNames.headD [] ∈
        (SecretPath.pattern parts).variableNames
      cases hnames : (SecretPath.pattern parts).variableNames with
      | nil => rw [hnames] at hmem; cases hmem
      | cons first rest => exact List.mem_cons_self

theorem mem_variableNames_of_resolve (h : t.Sound) {values : Secrets} {name : Text}
    (hr : t.resolve values = .error (.undefinedVariable name)) : name ∈ t.variableNames := by
  obtain ⟨g, hg, hfault⟩ := (resolve_eq_error_iff.1 hr).exists_mem
  exact mem_variableNames.2 ⟨g, hg, mem_of_resolveSegment (h g hg) hfault⟩

/-! ## 5. Paths that embed variables, as templates -/

def segmentOf : PathPart → Segment
  | .text t => .literal t
  | .var v => .var v

def plainText : List Segment → Except Fault Text
  | [] => .ok []
  | .literal t :: ss =>
    match plainText ss with
    | .ok r => .ok (t ++ r)
    | .error f => .error f
  | .var v :: _ => .error (.undefinedVariable v.name)
  | .secret _ raw :: _ => .error (.badPath raw)

theorem segmentOf_of_partOf? {g : Segment} {part : PathPart} (h : partOf? g = some part) :
    segmentOf part = g := by
  cases g with
  | literal text =>
    rw [partOf?] at h
    split at h
    · obtain rfl := Option.some.inj h
      rfl
    · cases h
  | var v =>
    obtain rfl := Option.some.inj h
    rfl
  | secret p raw => cases h

theorem map_segmentOf_of_parts? {ss : List Segment} {parts : List PathPart}
    (h : parts? ss = some parts) : parts.map segmentOf = ss := by
  induction ss generalizing parts with
  | nil =>
    obtain rfl := Option.some.inj h
    rfl
  | cons g ss ih =>
    rw [parts?] at h
    cases hg : partOf? g with
    | none => rw [hg] at h; cases h
    | some part =>
      simp only [hg] at h
      obtain ⟨rest, hrest, rfl⟩ := Option.map_eq_some_iff.1 h
      rw [List.map_cons, segmentOf_of_partOf? hg, ih hrest]

/-- The parts of a path that embeds variables are all that the content of its tag was read as. -/
theorem exists_readDeep_of_pattern (h : parse v s = .ok t) {parts : List PathPart} {raw : Text}
    (hmem : .secret (.pattern parts) raw ∈ t.segments) :
    ∃ content, readDeep v.brackets 1 content = .ok ⟨parts.map segmentOf⟩ := by
  obtain ⟨-, hread, hseg⟩ := parse_eq_ok_iff.1 h
  rw [hseg] at hmem
  obtain ⟨p, hp, hpseg⟩ := List.mem_map.1 hmem
  cases p with
  | literal text raw => cases hpseg
  | tag b content raw line =>
    cases hname : Text.isName (Text.trim content) with
    | true =>
      rw [Brackets.segment, if_pos hname] at hpseg
      cases hpseg
    | false =>
      rw [Brackets.segment_reference hname] at hpseg
      obtain ⟨hpath, -⟩ := Segment.secret.inj hpseg
      obtain ⟨rfl, -⟩ := Brackets.eq_map_of_secretPath hpath
      have hmean : v.brackets.Meaningful content := hread _ hp
      have hfit := List.all_eq_true.2 (hmean.fitsPath hname)
      have hfault := (Brackets.tidy_brackets v).fault_inner hp
      -- pieces that fit a path are read one level down, as the parts they make
      obtain ⟨ss, hss⟩ := readPieces_of_fitsPath (r := some (readDeep v.brackets 0)) hfit
      have hparts := parts?_of_readPieces hss
      rw [if_pos hfit] at hparts
      refine ⟨Text.trim content, ?_⟩
      rw [map_segmentOf_of_parts? hparts]
      exact readWith_ok_iff.2 ⟨hss, hfault⟩

theorem Reached.exists_readDeep (h : Reached v n t) {parts : List PathPart} {raw : Text}
    (hmem : .secret (.pattern parts) raw ∈ t.segments) :
    ∃ content, readDeep v.brackets 1 content = .ok ⟨parts.map segmentOf⟩ := by
  cases h with
  | read h => exact exists_readDeep_of_pattern h hmem
  | filled _ hi => exact absurd rfl ((settled_of_inject hi _ hmem).2 parts raw)

/-- Joining the parts of a pattern is replacing its variables and taking the plain text of the
result. -/
theorem flatten_eq_bind (vars : Bindings) (parts : List PathPart) :
    flatten vars parts = (substitute vars (parts.map segmentOf)).bind plainText := by
  induction parts with
  | nil => rfl
  | cons part parts ih =>
    cases part with
    | text t =>
      rw [flatten, ih, List.map_cons, segmentOf, substitute, substituteSegment]
      cases substitute vars (parts.map segmentOf) <;> rfl
    | var v =>
      rw [flatten, ih, List.map_cons, segmentOf, substitute, substituteSegment]
      cases valueOf vars v.name with
      | error f => rfl
      | ok value => cases substitute vars (parts.map segmentOf) <;> rfl

/-- Filled parts are plain text. -/
theorem plainText_filled (vars : Bindings) (parts : List PathPart) :
    plainText ((parts.map segmentOf).map (Segment.filled vars)) =
      .ok (parts.flatMap (PathPart.filled vars)) := by
  induction parts with
  | nil => rfl
  | cons part parts ih =>
    rw [List.map_cons, List.map_cons, List.flatMap_cons]
    cases part with
    | text t => rw [segmentOf, Segment.filled, plainText, ih, PathPart.filled]
    | var v => rw [segmentOf, Segment.filled, plainText, ih, PathPart.filled]

theorem exists_plainText_of_substitute {parts : List PathPart} {ss : List Segment}
    (h : substitute vars (parts.map segmentOf) = .ok ss) : ∃ p, plainText ss = .ok p := by
  obtain ⟨-, rfl⟩ := substitute_eq_ok_iff.1 h
  exact ⟨_, plainText_filled vars parts⟩

end Template

end SecretWeave
