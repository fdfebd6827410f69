import SecretWeave.Proofs.Template.Grammar
import SecretWeave.Proofs.Template.Rendering

/-!
# What injecting a text means

The meaning of a text is told piece by piece, from the pieces that its brackets cut it into: a run
means its text, a variable its value, and a reference what the source holds under its path. Reading,
substituting, fetching and rendering come down to this (`inject_meaning`).
-/

namespace SecretWeave

/-! ## 1. What pieces mean -/

namespace Piece

def name? : Piece → Option Text
  | .literal _ _ => none
  | .tag _ content _ _ => some (Text.trim content)

def filled (vars : Bindings) : Piece → Text
  | .literal text _ => text
  | .tag _ content _ _ => vars.value (Text.trim content)

end Piece

namespace Brackets

def variableNames (bs : Brackets) : Piece → List Text
  | .literal _ _ => []
  | .tag _ content _ _ =>
    if Text.isName (Text.trim content) then [Text.trim content]
    else (bs.inner content).filterMap Piece.name?

def pathOf (bs : Brackets) (vars : Bindings) (content : Text) : Text :=
  (bs.inner content).flatMap (Piece.filled vars)

def lookup? (bs : Brackets) (vars : Bindings) : Piece → Option Text
  | .literal _ _ => none
  | .tag _ content _ _ =>
    if Text.isName (Text.trim content) then none else some (bs.pathOf vars content)

def meaning (bs : Brackets) (vars : Bindings) (look : Lookup) : Piece → Text
  | .literal text _ => text
  | .tag _ content _ _ =>
    if Text.isName (Text.trim content) then vars.value (Text.trim content)
    else Text.decode (look.value (bs.pathOf vars content))

/-! ## 2. Pieces and segments -/

variable {bs : Brackets} {vars : Bindings} {look : Lookup} {content raw : Text}

theorem filled_pathPart (vars : Bindings) (p : Piece) : p.pathPart.filled vars = p.filled vars := by
  cases p <;> rfl

theorem embedded?_pathPart (p : Piece) : p.pathPart.embedded? = p.name? := by
  cases p <;> rfl

theorem filled_of_not_isTag {p : Piece} (h : p.isTag = false) : p.filled vars = p.plain := by
  cases p with
  | literal text raw => rfl
  | tag b content raw line => cases h

def secretPath (bs : Brackets) (content : Text) : SecretPath :=
  if (bs.inner content).any Piece.isTag then .pattern ((bs.inner content).map Piece.pathPart)
  else .path ((bs.inner content).flatMap Piece.plain)

theorem segment_reference {b : Bracket} {line : Nat} (h : Text.isName (Text.trim content) = false) :
    bs.segment (.tag b content raw line) = .secret (bs.secretPath content) raw := by
  rw [segment, h, secretPath]
  cases (bs.inner content).any Piece.isTag <;> rfl

/-- The path of a tag with its variables replaced, told over the pieces of its content. -/
theorem filled_secretPath (bs : Brackets) (vars : Bindings) (content : Text) :
    (bs.secretPath content).filled vars = bs.pathOf vars content := by
  rw [secretPath, pathOf]
  -- a tag inside makes the path a pattern, and without one filling changes nothing
  cases h : (bs.inner content).any Piece.isTag with
  | true =>
    show ((bs.inner content).map Piece.pathPart).flatMap (PathPart.filled vars) = _
    rw [List.flatMap_map]
    apply List.flatMap_congr
    intro p _
    exact filled_pathPart vars p
  | false =>
    show (bs.inner content).flatMap Piece.plain = _
    apply List.flatMap_congr
    intro p hp
    have htag : p.isTag = false := by simpa using List.any_eq_false.1 h p hp
    rw [filled_of_not_isTag htag]

/-- The variables inside a path are the tags inside its content. -/
theorem variableNames_secretPath (bs : Brackets) (content : Text) :
    (bs.secretPath content).variableNames = (bs.inner content).filterMap Piece.name? := by
  rw [secretPath]
  cases h : (bs.inner content).any Piece.isTag with
  | true =>
    show ((bs.inner content).map Piece.pathPart).filterMap PathPart.embedded? = _
    rw [List.filterMap_map]
    congr 1
    funext p
    exact embedded?_pathPart p
  | false =>
    -- without tags inside, the path embeds nothing
    symm
    show _ = []
    rw [List.filterMap_eq_nil_iff]
    intro p hp
    have htag : p.isTag = false := by simpa using List.any_eq_false.1 h p hp
    cases p with
    | literal text raw => rfl
    | tag b content raw line => cases htag

theorem lookup?_segment (bs : Brackets) (vars : Bindings) (p : Piece) :
    (bs.segment p).lookup? vars = bs.lookup? vars p := by
  cases p with
  | literal text raw => rfl
  | tag b content raw line =>
    rw [lookup?]
    cases h : Text.isName (Text.trim content) with
    | true => simp [segment, h, Segment.lookup?]
    | false =>
      rw [segment_reference h, Segment.lookup?, filled_secretPath]
      rfl

theorem variableNames_segment (bs : Brackets) (p : Piece) :
    (bs.segment p).variableNames = bs.variableNames p := by
  cases p with
  | literal text raw => rfl
  | tag b content raw line =>
    rw [variableNames]
    cases h : Text.isName (Text.trim content) with
    | true => simp [segment, h, Segment.variableNames]
    | false =>
      rw [segment_reference h, Segment.variableNames, variableNames_secretPath]
      rfl

theorem rendered_segment (bs : Brackets) (vars : Bindings) (look : Lookup) (p : Piece) :
    (bs.segment p).rendered vars look.value = bs.meaning vars look p := by
  cases p with
  | literal text raw => rfl
  | tag b content raw line =>
    rw [meaning]
    cases h : Text.isName (Text.trim content) with
    | true => simp [segment, h, Segment.rendered]
    | false =>
      rw [segment_reference h, Segment.rendered, filled_secretPath]
      rfl

/-- A reference without variables in it has a path that may be looked up. -/
theorem isPath_of_meaningful (h : Text.isName (Text.trim content) = false)
    (hm : bs.Meaningful content) {p : Text} (hp : bs.secretPath content = .path p) :
    Text.isPath p = true := by
  rcases hm with hname | ⟨hfit, htag⟩
  · rw [h] at hname
    cases hname
  · rw [secretPath] at hp
    cases hany : (bs.inner content).any Piece.isTag with
    | true => simp [hany] at hp
    | false =>
      rw [hany] at hp
      obtain rfl := SecretPath.path.inj hp
      rw [Template.isPath_plain (List.all_eq_true.2 hfit)]
      rcases htag with htag | hplain
      · rw [← List.any_eq_true, hany] at htag
        cases htag
      · exact hplain

/-- A piece can be filled exactly if its variables have values and its path is one with these. -/
theorem fillable_segment {p : Piece} (h : bs.Readable p) :
    (bs.segment p).Fillable vars ↔
      (∀ n ∈ bs.variableNames p, n ∈ vars.keys) ∧
        ∀ path, bs.lookup? vars p = some path → Text.isPath path = true := by
  rw [← variableNames_segment, ← lookup?_segment]
  cases p with
  | literal text raw => simp [segment, Segment.Fillable, Segment.variableNames, Segment.lookup?]
  | tag b content raw line =>
    cases hname : Text.isName (Text.trim content) with
    | true => simp [segment, hname, Segment.Fillable, Segment.variableNames, Segment.lookup?]
    | false =>
      rw [segment_reference hname, Segment.lookup?, Segment.Fillable, Segment.variableNames]
      cases hp : bs.secretPath content with
      | path q =>
        -- a path without variables was checked when it was read
        have hq := isPath_of_meaningful hname h hp
        simp [SecretPath.Fillable, SecretPath.variableNames, SecretPath.filled, hq]
      | pattern parts => simp [SecretPath.Fillable]

end Brackets

/-! ## 3. Texts -/

namespace Template

variable {v : Version} {vars : Bindings} {look : Lookup} {s : Text} {t : Template}

/-- A template can be filled exactly if each piece of its text can. -/
theorem fillable_iff_pieces (vars : Bindings) (h : parse v s = .ok t) :
    (∀ g ∈ t.segments, g.Fillable vars) ↔
      ∀ p ∈ (Pieces.ofText v.brackets s).pieces, (∀ n ∈ v.brackets.variableNames p, n ∈ vars.keys) ∧
        ∀ path, v.brackets.lookup? vars p = some path → Text.isPath path = true := by
  obtain ⟨-, hread, hseg⟩ := parse_eq_ok_iff.1 h
  rw [hseg, List.forall_mem_map]
  exact forall₂_congr fun p hp => Brackets.fillable_segment (hread p hp)

/-- A source has what a template demands exactly if it has what each piece looks up. -/
theorem has_iff_pieces (h : parse v s = .ok t) :
    (∀ path ∈ t.demand vars, look.Has path) ↔
      ∀ p ∈ (Pieces.ofText v.brackets s).pieces, ∀ path,
        v.brackets.lookup? vars p = some path → look.Has path := by
  obtain ⟨-, -, hseg⟩ := parse_eq_ok_iff.1 h
  simp only [demand, mem_distinct, uses, hseg, List.mem_filterMap, List.mem_map]
  constructor
  · intro hall p hp path hpath
    exact hall path ⟨_, ⟨p, hp, rfl⟩, (Brackets.lookup?_segment _ _ p).trans hpath⟩
  · rintro hall path ⟨g, ⟨p, hp, rfl⟩, hpath⟩
    exact hall p hp path ((Brackets.lookup?_segment _ _ p).symm.trans hpath)

/-- A rendered template is its text with each piece replaced by its meaning. -/
theorem rendered_eq_meaning (h : parse v s = .ok t) :
    t.rendered vars look.value =
      (Pieces.ofText v.brackets s).pieces.flatMap (v.brackets.meaning vars look) := by
  obtain ⟨-, -, hseg⟩ := parse_eq_ok_iff.1 h
  rw [rendered, hseg, List.flatMap_map]
  apply List.flatMap_congr
  intro p _
  exact Brackets.rendered_segment _ _ _ p

/-- What injecting comes to. With variables that are named by identifiers, a text is injected exactly
when it can be read, its variables have values, its paths are paths and the source has them; and then
every piece gives what it means, in order. Values that are put in are not looked at again. -/
theorem inject_meaning {vars : Bindings} (hvars : ∀ n ∈ vars.keys, Text.isName n = true)
    (v : Version) (look : Lookup) (s out : Text) :
    (SecretWeave.inject v vars look s).outcome = .ok out ↔
      (∃ t, parse v s = .ok t) ∧
      (∀ p ∈ (Pieces.ofText v.brackets s).pieces, ∀ n ∈ v.brackets.variableNames p, n ∈ vars.keys) ∧
      (∀ p ∈ (Pieces.ofText v.brackets s).pieces, ∀ path, v.brackets.lookup? vars p = some path →
        Text.isPath path = true) ∧
      (∀ p ∈ (Pieces.ofText v.brackets s).pieces, ∀ path, v.brackets.lookup? vars p = some path →
        look.Has path) ∧
      out = (Pieces.ofText v.brackets s).pieces.flatMap (v.brackets.meaning vars look) := by
  cases hparse : parse v s with
  | error f =>
    have hneeds : needs v vars s = .error (.template f) := by rw [needs, hparse]
    rw [inject_of_needs_error hneeds]
    simp
  | ok t =>
    have hfill := fillable_iff_pieces vars hparse
    by_cases hall : ∀ g ∈ t.segments, g.Fillable vars
    · -- everything can be filled, and the rest is up to the source
      have hi := inject_of_fillable (badName?_eq_none_iff.2 hvars) hall
      have hgood := hfill.1 hall
      rw [inject_eq_ask hparse hi, outcome_ask_eq_ok_iff, has_iff_pieces hparse,
        rendered_eq_meaning hparse]
      constructor
      · rintro ⟨h, rfl⟩
        exact ⟨⟨t, rfl⟩, fun p hp => (hgood p hp).1, fun p hp => (hgood p hp).2, h, rfl⟩
      · rintro ⟨-, -, -, h, rfl⟩
        exact ⟨h, rfl⟩
    · -- some variable lacks a value or some path is none, and no source is asked
      constructor
      · intro h
        cases hi : t.inject vars with
        | ok t' => exact absurd (inject_eq_ok_iff.1 hi).2.1 hall
        | error f =>
          have hneeds : needs v vars s = .error (.ofUsage f) := by
            rw [needs, hparse]
            simp only [hi]
          rw [inject_of_needs_error hneeds] at h
          cases h
      · rintro ⟨-, hnames, hpaths, -, -⟩
        exact absurd (hfill.2 fun p hp => ⟨hnames p hp, hpaths p hp⟩) hall

/-- A value that looks like a tag and a secret that looks like one mean themselves. -/
theorem inject_meaning_tag_like_values :
    let vars : Bindings := OrderedMap.ofList [("x".toList, "a".toList), ("y".toList, "{{ b }}".toList)]
    let look : Lookup := fun p =>
      if p = "a/p".toList then .ok [0x24, 0x7B, 0x78, 0x7D] else .error (.secretNotFound p)
    (∀ n ∈ vars.keys, Text.isName n = true) ∧ "{{ b }}|${x}".toList =
      (Pieces.ofText Version.v2.brackets "${y}|{{ ${x}/p }}".toList).pieces.flatMap
        (Version.v2.brackets.meaning vars look) := by
  intro vars look
  have hvars : ∀ n ∈ vars.keys, Text.isName n = true := by decide
  have hout : (SecretWeave.inject .v2 vars look "${y}|{{ ${x}/p }}".toList).outcome =
      .ok "{{ b }}|${x}".toList := by decide +kernel
  exact ⟨hvars, ((inject_meaning hvars .v2 look _ _).1 hout).2.2.2.2⟩

end Template

end SecretWeave
