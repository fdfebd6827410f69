import SecretWeave.Proofs.Storing
import SecretWeave.Proofs.Tag.Joining
import SecretWeave.Proofs.Template.Blame
import SecretWeave.Proofs.Template.Grammar
import SecretWeave.Proofs.Template.Rendering

/-!
# Templates of joined texts

A text can be read line by line as far as no tag spans lines: where a text can be read, the text
behind it and a line break is read as if it stood alone, only further down. The template of both is
the one and the other with a line break between them (`parse_join`).
-/

namespace SecretWeave

def Segment.fuse? : Segment → Segment → Option Segment
  | .literal t, .literal t' => some (.literal (t ++ t'))
  | _, _ => none

theorem Segment.fuse?_eq_some {x y z : Segment} (h : x.fuse? y = some z) :
    ∃ a b, x = .literal a ∧ y = .literal b ∧ z = .literal (a ++ b) := by
  cases x with
  | var => cases h
  | secret => cases h
  | literal a =>
    cases y with
    | var => cases h
    | secret => cases h
    | literal b => exact ⟨a, b, rfl, rfl, (Option.some.inj h).symm⟩

namespace Fault

theorem atLine_atLine_succ {line : Nat} (h : 0 < line) (f : Fault) (k : Nat) :
    (f.atLine line).atLine (k + 1) = f.atLine (line + k) := by
  cases f with
  | located n g =>
    simp only [atLine_located]
    congr 1
    omega
  | _ =>
    simp only [atLine]
    congr 1
    omega

end Fault

namespace Template

variable {bs : Brackets} {r : Option (Text → Except Fault Template)} {c : Char} {s : Text}

/-- One template, a character and another template, with plain texts that meet as one. -/
def join (c : Char) (t u : Template) : Template :=
  ⟨fused Segment.fuse? (t.segments ++ .literal [c] :: u.segments)⟩

/-! ## 1. Reading -/

theorem ne_literal_of_readTag {content raw : Text} {seg : Segment}
    (h : readTag r content raw = .ok seg) (t : Text) : seg ≠ .literal t := by
  cases hname : Text.isName (Text.trim content) with
  | true =>
    rw [readTag_of_isName hname] at h
    rintro rfl
    cases h
  | false =>
    obtain ⟨p, rfl⟩ := eq_secret_of_readTag hname h
    exact Segment.noConfusion

/-- Segments fuse only if their pieces do. -/
theorem fuse?_eq_none_of_readPiece {p q : Piece} {x y : Segment} (h : p.fuse? q = none)
    (hx : readPiece r p = .ok x) (hy : readPiece r q = .ok y) : x.fuse? y = none := by
  have htag : ∀ b content raw line seg, readPiece r (.tag b content raw line) = .ok seg →
      ∀ t, seg ≠ .literal t := by
    intro b content raw line seg hseg
    rw [readPiece] at hseg
    cases hread : readTag r content raw with
    | error f => rw [hread] at hseg; cases hseg
    | ok seg' =>
      rw [hread] at hseg
      obtain rfl := Except.ok.inj hseg
      exact ne_literal_of_readTag hread
  -- of two pieces that do not fuse one is a tag, and its segment is no plain text
  cases x with
  | var v => rfl
  | secret path raw => rfl
  | literal t =>
    cases y with
    | var v => rfl
    | secret path raw => rfl
    | literal u =>
      cases p with
      | tag b content raw line => exact absurd rfl (htag _ _ _ _ _ hx t)
      | literal text raw =>
        cases q with
        | tag b content raw line => exact absurd rfl (htag _ _ _ _ _ hy u)
        | literal text' raw' => cases h

/-- Fused pieces are read as fused segments. -/
theorem readPieces_fused (ps : List Piece) :
    readPieces r (fused Piece.fuse? ps) = (readPieces r ps).map (fused Segment.fuse?) := by
  rw [readPieces_eq_mapM, readPieces_eq_mapM]
  apply mapM_fused
  · intro p q z hz
    cases p with
    | tag => cases hz
    | literal text raw =>
      cases q with
      | tag => cases hz
      | literal text' raw' =>
        obtain rfl := Option.some.inj hz
        exact ⟨_, _, _, rfl, rfl, rfl, rfl⟩
  · intro p q x y
    exact fuse?_eq_none_of_readPiece

/-- A piece that stands further down has the same segment, and its fault further down. -/
theorem readPiece_moved {p : Piece} (k : Nat)
    (h : ∀ b content raw line, p = .tag b content raw line → 0 < line) :
    readPiece r (p.moved k) = (readPiece r p).mapError (Fault.atLine (k + 1)) := by
  cases p with
  | literal text raw => rfl
  | tag b content raw line =>
    have hline := h b content raw line rfl
    rw [Piece.moved, readPiece, readPiece]
    cases readTag r content raw with
    | ok seg => rfl
    | error f => exact congrArg Except.error (Fault.atLine_atLine_succ hline f k).symm

/-- The pieces of a text that starts further down are read alike, with faults further down. -/
theorem readPieces_moved (k : Nat) (s : Text) :
    readPieces r ((Pieces.ofText bs s).pieces.map (Piece.moved k)) =
      (readPieces r (Pieces.ofText bs s).pieces).mapError (Fault.atLine (k + 1)) := by
  rw [readPieces_eq_mapM, readPieces_eq_mapM, List.mapM_map]
  apply mapM_mapError
  intro p hp
  apply readPiece_moved
  rintro b content raw line rfl
  -- lines are counted from one
  obtain ⟨before, after, hps⟩ := List.append_of_mem hp
  rw [(Brackets.tag_of_cut hps).2.2]
  omega

/-- Behind a text that can be read, a further text is read as if it stood alone. -/
theorem readWith_join (ht : bs.Tidy) (hc : Text.isBlank c = true) {t : Template}
    (h : readWith bs r s = .ok t) (u : Text) :
    readWith bs r (s ++ c :: u) =
      ((readWith bs r u).map (join c t)).mapError
        (Fault.atLine (Text.newlines (s ++ [c]) + 1)) := by
  obtain ⟨hps, hfault⟩ := readWith_ok_iff.1 h
  have hblank : readPiece r (.literal [c] [c]) = .ok (.literal [c]) := rfl
  rw [readPieces_eq_mapM] at hps
  have hread : readPieces r (Pieces.ofText bs (s ++ c :: u)).pieces =
      ((readPieces r (Pieces.ofText bs u).pieces).map fun ss =>
        fused Segment.fuse? (t.segments ++ .literal [c] :: ss)).mapError
          (Fault.atLine (Text.newlines (s ++ [c]) + 1)) := by
    rw [Brackets.ofText_join ht hc hfault, readPieces_fused, readPieces_eq_mapM,
      mapM_append_map hps, mapM_cons_map hblank, ← readPieces_eq_mapM, readPieces_moved]
    cases readPieces r (Pieces.ofText bs u).pieces <;> rfl
  unfold readWith
  dsimp only
  rw [hread, Brackets.ofText_join ht hc hfault]
  cases readPieces r (Pieces.ofText bs u).pieces with
  | error f => rfl
  | ok ss => cases (Pieces.ofText bs u).fault <;> rfl

/-- What a closed tag is refused for does not depend on what follows a blank behind the text. -/
theorem readPieces_join_error (ht : bs.Tidy) (hc : Text.isBlank c = true) {f : Fault}
    (h : readPieces r (Pieces.ofText bs s).pieces = .error f) (u : Text) :
    readPieces r (Pieces.ofText bs (s ++ c :: u)).pieces = .error f := by
  rw [readPieces_eq_mapM, mapM_eq_error_iff] at h ⊢
  obtain ⟨pre, p, post, hps, hpre, hp⟩ := h
  obtain ⟨b, content, raw, line, g, rfl, -, -⟩ := exists_tag_of_readPiece hp
  obtain ⟨post', hjoined⟩ := Brackets.exists_cut_join ht hc hps u
  exact ⟨pre, _, post', hjoined, hpre, hp⟩

/-! ## 2. What is referenced and rendered -/

/-- What is collected from segments is collected from the one template and then from the other. -/
theorem flatMap_join {α : Type} {g : Segment → List α}
    (hg : ∀ x y, g (.literal (x ++ y)) = g (.literal x) ++ g (.literal y)) (c : Char)
    (t u : Template) :
    (join c t u).segments.flatMap g =
      t.segments.flatMap g ++ (g (.literal [c]) ++ u.segments.flatMap g) := by
  rw [join, flatMap_fused, List.flatMap_append, List.flatMap_cons]
  intro x y z hz
  obtain ⟨a, b, rfl, rfl, rfl⟩ := Segment.fuse?_eq_some hz
  exact hg a b

/-- Joined templates reference what both of them reference. -/
theorem secrets_join (c : Char) (t u : Template) :
    (join c t u).secrets = distinct (t.secrets ++ u.secrets) := by
  rw [secrets, secrets, secrets, distinct_append_distinct]
  simp only [lookups, List.filterMap_eq_flatMap_toList]
  rw [flatMap_join]
  · rfl
  · intro x y
    rfl

theorem variableNames_join (c : Char) (t u : Template) :
    (join c t u).variableNames = distinct (t.variableNames ++ u.variableNames) := by
  rw [variableNames, variableNames, variableNames, distinct_append_distinct, flatMap_join]
  · rfl
  · intro x y
    rfl

/-- The text of a template, given the values of variables and of secrets. -/
def render (vars : Bindings) (values : Secrets) (t : Template) : Except Fault Text :=
  match t.inject vars with
  | .error f => .error f
  | .ok t => t.resolve values

variable {vars : Bindings} {values : Secrets}

theorem mem_keys_of_resolve {t : Template} {out : Text} (h : t.resolve values = .ok out) :
    ∀ p ∈ t.lookups, p ∈ values.keys := by
  have hall : ∀ seg ∈ t.segments, ∃ out, resolveSegment values seg = .ok out := by
    rcases all_ok_or_refusedAt (resolveSegment values) t.segments with hall | ⟨f, hf⟩
    · exact hall
    · cases h.symm.trans (resolve_eq_error_iff.2 hf)
  intro p hp
  obtain ⟨seg, hmem, hseg⟩ := List.mem_filterMap.1 hp
  obtain ⟨x, hx⟩ := hall seg hmem
  exact mem_keys_of_resolveSegment hx hseg

/-- A template is rendered exactly when all it needs is there. -/
theorem render_eq_ok_iff {t : Template} {out : Text} :
    t.render vars values = .ok out ↔
      (∀ n ∈ vars.keys, Text.isName n = true) ∧ (∀ seg ∈ t.segments, seg.Fillable vars) ∧
        (∀ p ∈ t.uses vars, p ∈ values.keys) ∧
        out = t.rendered vars fun p => (values.get? p).getD [] := by
  unfold render
  cases hi : t.inject vars with
  | error f =>
    constructor
    · intro h
      cases h
    · rintro ⟨hn, hfill, -⟩
      cases hi.symm.trans (inject_eq_ok_iff.2 ⟨hn, hfill, rfl⟩)
  | ok t' =>
    obtain ⟨hn, hfill, rfl⟩ := inject_eq_ok_iff.1 hi
    -- with a value for every use, what was filled is resolved
    have hresolve : (∀ p ∈ t.uses vars, p ∈ values.keys) →
        (t.filled vars).resolve values =
          .ok (t.rendered vars fun p => (values.get? p).getD []) := by
      intro h
      apply resolve_filled
      intro p hp
      obtain ⟨v, hv⟩ := OrderedMap.mem_keys_iff.1 (h p hp)
      rw [hv]
      rfl
    constructor
    · intro h
      have huses : ∀ p ∈ t.uses vars, p ∈ values.keys := by
        have hmem := mem_keys_of_resolve h
        rwa [lookups_filled] at hmem
      exact ⟨hn, hfill, huses, Except.ok.inj (h.symm.trans (hresolve huses))⟩
    · rintro ⟨-, -, huses, rfl⟩
      exact hresolve huses

theorem fillable_join_iff :
    (∀ seg ∈ (join c t u).segments, seg.Fillable vars) ↔
      (∀ seg ∈ t.segments, seg.Fillable vars) ∧ ∀ seg ∈ u.segments, seg.Fillable vars := by
  rw [join, forall_mem_fused]
  · have hblank : (Segment.literal [c]).Fillable vars := trivial
    simp only [List.forall_mem_append, List.forall_mem_cons, hblank, true_and]
  · intro x y z hz
    obtain ⟨a, b, rfl, rfl, rfl⟩ := Segment.fuse?_eq_some hz
    simp only [Segment.Fillable, and_self]

theorem uses_join (c : Char) (t u : Template) (vars : Bindings) :
    (join c t u).uses vars = t.uses vars ++ u.uses vars := by
  simp only [uses, List.filterMap_eq_flatMap_toList]
  rw [flatMap_join]
  · rfl
  · intro x y
    rfl

theorem rendered_join (c : Char) (t u : Template) (vars : Bindings) (f : Text → Bytes) :
    (join c t u).rendered vars f = t.rendered vars f ++ c :: u.rendered vars f := by
  rw [rendered, flatMap_join]
  · rfl
  · intro x y
    rfl

/-- Rendering goes through a template from the one side to the other. -/
theorem render_join_eq_ok_iff {out : Text} :
    (join c t u).render vars values = .ok out ↔
      ∃ x y, t.render vars values = .ok x ∧ u.render vars values = .ok y ∧ out = x ++ c :: y := by
  simp only [render_eq_ok_iff, fillable_join_iff, uses_join, rendered_join,
    List.forall_mem_append]
  constructor
  · rintro ⟨hn, ⟨ht, hu⟩, ⟨ht', hu'⟩, rfl⟩
    exact ⟨_, _, ⟨hn, ht, ht', rfl⟩, ⟨hn, hu, hu', rfl⟩, rfl⟩
  · rintro ⟨x, y, ⟨hn, ht, ht', rfl⟩, ⟨-, hu, hu', rfl⟩, rfl⟩
    exact ⟨hn, ⟨ht, hu⟩, ⟨ht', hu'⟩, rfl⟩

/-! ## 3. Lines -/

theorem exists_located_of_parse {v : Version} {f : Fault} (h : parse v s = .error f) :
    ∃ n g, f = .located n g := by
  obtain ⟨before, -, hf⟩ := exists_prefix_of_parse h
  exact ⟨_, _, hf⟩

theorem parse_join_eq {v : Version} {t : Template} (h : parse v s = .ok t) (u : Text) :
    parse v (s ++ '\n' :: u) =
      ((parse v u).map (join '\n' t)).mapError (Fault.atLine (Text.newlines s + 1 + 1)) := by
  have hbreak : Text.newlines (s ++ ['\n']) = Text.newlines s + 1 := by simp [Text.newlines]
  rw [← hbreak]
  exact readWith_join (Brackets.tidy_brackets v) (by decide) h u

/-- A bad path in the first text is the fault of the joined text. -/
theorem parse_join_of_badPath {v : Version} {f : Fault} {p : Text} (h : parse v s = .error f)
    (hp : f.root = .badPath p) (u : Text) : parse v (s ++ '\n' :: u) = .error f := by
  have ht := Brackets.tidy_brackets v
  rcases readWith_error_iff.1 h with hps | ⟨-, hfault⟩
  · exact readWith_error_iff.2 (.inl (readPieces_join_error ht (by decide) hps u))
  · -- a tag that is left open is no fault of a path
    obtain ⟨b, _, -, -, -, hroot⟩ := unclosed_of_fault hfault
    cases hp.symm.trans hroot

/-- Texts are read at line breaks. When the first of two texts can be read, the second is read
behind it as if it stood alone: either both templates are joined, with all they refer to in order
and their renderings side by side, or the fault of the second text is found further down. When the
first text has a fault of a path, no text behind it changes that. -/
theorem parse_join (v : Version) (s u : Text) :
    (∀ t, parse v s = .ok t →
      (∀ t', parse v u = .ok t' →
        parse v (s ++ '\n' :: u) = .ok (join '\n' t t') ∧
        (join '\n' t t').secrets = distinct (t.secrets ++ t'.secrets) ∧
        (join '\n' t t').variableNames = distinct (t.variableNames ++ t'.variableNames) ∧
        ∀ vars values out, (join '\n' t t').render vars values = .ok out ↔
          ∃ x y, t.render vars values = .ok x ∧ t'.render vars values = .ok y ∧
            out = x ++ '\n' :: y) ∧
      ∀ f, parse v u = .error f → ∃ n g, f = .located n g ∧
        parse v (s ++ '\n' :: u) = .error (.located (n + (Text.newlines s + 1)) g)) ∧
    ∀ f p, parse v s = .error f → f.root = .badPath p → parse v (s ++ '\n' :: u) = .error f := by
  refine ⟨fun t hs => ⟨?_, ?_⟩, fun f p hs hp => parse_join_of_badPath hs hp u⟩
  · intro t' hu
    have hjoin : parse v (s ++ '\n' :: u) = .ok (join '\n' t t') := by
      rw [parse_join_eq hs, hu]
      rfl
    exact ⟨hjoin, secrets_join _ _ _, variableNames_join _ _ _, fun _ _ _ => render_join_eq_ok_iff⟩
  · intro f hu
    obtain ⟨n, g, rfl⟩ := exists_located_of_parse hu
    refine ⟨n, g, rfl, ?_⟩
    rw [parse_join_eq hs, hu]
    simp only [Except.map, Except.mapError, Fault.atLine_located]
    congr 2
    omega

end Template

end SecretWeave
