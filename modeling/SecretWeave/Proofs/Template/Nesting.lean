import SecretWeave.Proofs.Template.Blame

/-!
# Nesting without a limit

References are read a few levels deep only. Here the content of a tag is read as every text is, so
that references may be nested to any depth (`readUnlimited_eq`), and the limit turns out to make no
difference to what is read: whatever stands too deep is inside a reference that is refused anyway.
Only the fault may be another one, about another tag inside the same tag of the text
(`parse_unlimited`).
-/

namespace SecretWeave

namespace Brackets

variable {bs : Brackets} {b : Bracket} {s content raw : Text} {line : Nat}

/-- What a tag holds is shorter than the text it stands in. -/
theorem length_trim_lt (h : .tag b content raw line ∈ (Pieces.ofText bs s).pieces) :
    (Text.trim content).length < s.length := by
  obtain ⟨before, after, hps⟩ := List.append_of_mem h
  obtain ⟨-, rest, hs⟩ := eq_append_of_pieces hps
  obtain ⟨trail, htrim⟩ := exists_trim_append content
  have hcontent : (Text.trim content).length ≤ content.length := by
    rw [htrim, List.length_append, List.length_append, ← htrim]
    omega
  have hopen := b.length_opener_pos
  rw [hs]
  simp only [List.length_append]
  omega

end Brackets

namespace Template

variable {bs : Brackets} {s : Text} {r : Text → Except Fault Template}

/-! ## 1. Reading without a limit -/

/-- Reads a text whose tags may hold references nested to any depth. The reading comes to an end as
each content is shorter than the text around it. -/
def readUnlimited (bs : Brackets) (s : Text) : Except Fault Template :=
  readWith bs
    (some fun inner => if _h : inner.length < s.length then readUnlimited bs inner else .ok ⟨[]⟩) s
termination_by s.length

/-- Contents are read by the grammar that the text itself is read by. -/
theorem readUnlimited_eq (bs : Brackets) (s : Text) :
    readUnlimited bs s = readWith bs (some (readUnlimited bs)) s := by
  rw [readUnlimited]
  apply readWith_congr
  intro b content raw line h
  exact dif_pos (Brackets.length_trim_lt h)

/-- A limit that a text is too short to reach is none. -/
theorem readUnlimited_eq_readDeep {n : Nat} (h : s.length ≤ n) :
    readUnlimited bs s = readDeep bs n s := by
  induction n generalizing s with
  | zero =>
    obtain rfl := List.length_eq_zero_iff.1 (Nat.le_zero.1 h)
    simp [readUnlimited_eq, readDeep, readWith, Pieces.ofText, Brackets.cut, readPieces]
  | succ n ih =>
    rw [readUnlimited_eq]
    apply readWith_congr
    intro b content raw line hp
    have hlt := Brackets.length_trim_lt hp
    exact ih (by omega)

/-- Two levels of the grammar at once: these the limit leaves as they are. -/
theorem readUnlimited_eq_twice (bs : Brackets) :
    readUnlimited bs = readWith bs (some (readWith bs (some (readUnlimited bs)))) := by
  have honce : readUnlimited bs = readWith bs (some (readUnlimited bs)) :=
    funext (readUnlimited_eq bs)
  rw [← honce]
  exact honce

theorem blamesPaths_readUnlimited (ht : bs.Tidy) : BlamesPaths bs (readUnlimited bs) := by
  intro s f hbal h
  rw [readUnlimited_eq_readDeep (Nat.le_refl _)] at h
  exact blamesPaths_readDeep ht s.length s f hbal h

/-! ## 2. The first tag that means nothing -/

/-- Either all pieces are readable, or there is a first tag without a meaning. -/
theorem all_readable_or_first (bs : Brackets) (ps : List Piece) :
    (∀ p ∈ ps, bs.Readable p) ∨
      ∃ before b content raw line after, ps = before ++ .tag b content raw line :: after ∧
        (∀ p ∈ before, bs.Readable p) ∧ ¬ bs.Meaningful content := by
  induction ps with
  | nil => exact .inl (by simp)
  | cons p ps ih =>
    by_cases hp : bs.Readable p
    · rcases ih with hall | ⟨before, b, content, raw, line, after, rfl, hbefore, hmean⟩
      · exact .inl (List.forall_mem_cons.2 ⟨hp, hall⟩)
      · exact .inr ⟨p :: before, b, content, raw, line, after, rfl,
          List.forall_mem_cons.2 ⟨hp, hbefore⟩, hmean⟩
    · cases p with
      | literal text raw => exact absurd trivial hp
      | tag b content raw line => exact .inr ⟨[], b, content, raw, line, ps, rfl, by simp, hp⟩

/-- A text whose closed tags all mean something is read as far as it is cut, whatever reads what is
inside the tags inside its tags. -/
theorem readWith_of_readable (ht : bs.Tidy)
    (h : ∀ p ∈ (Pieces.ofText bs s).pieces, bs.Readable p) :
    readWith bs (some (readWith bs (some r))) s =
      match (Pieces.ofText bs s).fault with
      | some f => .error f
      | none => .ok ⟨(Pieces.ofText bs s).pieces.map bs.segment⟩ := by
  have hread := (readPieces_eq_ok_iff (r := some r) ht).2 ⟨h, rfl⟩
  cases hfault : (Pieces.ofText bs s).fault with
  | some f => exact readWith_error_iff.2 (.inr ⟨⟨_, hread⟩, hfault⟩)
  | none => exact readWith_ok_iff.2 ⟨hread, hfault⟩

/-- A text is refused for its first tag that means nothing, as the tag by itself is, and for a path
in it. -/
theorem readWith_of_not_meaningful (ht : bs.Tidy) (hr : BlamesPaths bs r) {b : Bracket}
    {before after : List Piece} {content raw : Text} {line : Nat}
    (hps : (Pieces.ofText bs s).pieces = before ++ .tag b content raw line :: after)
    (hbefore : ∀ p ∈ before, bs.Readable p) (hmean : ¬ bs.Meaningful content) :
    ∃ g p, g.root = .badPath p ∧ readWith bs (some (readWith bs (some r))) raw = .error g ∧
      readWith bs (some (readWith bs (some r))) s = .error (g.atLine line) := by
  have hmem : .tag b content raw line ∈ (Pieces.ofText bs s).pieces := by simp [hps]
  have hok := fun {p} hp seg =>
    readPiece_eq_ok_iff (r := some r) (s := s) (p := p) ht hp seg
  have hinner : BlamesPaths bs (readWith bs (some r)) := blamesPaths_readWith ht (by simpa using hr)
  cases hpiece : readPiece (some (readWith bs (some r))) (.tag b content raw line) with
  | ok seg => exact absurd ((hok hmem seg).1 hpiece).1 hmean
  | error f =>
    obtain ⟨_, _, _, _, g, htag, hg, rfl⟩ := exists_tag_of_readPiece hpiece
    obtain ⟨rfl, rfl, rfl, rfl⟩ := Piece.tag.inj htag
    obtain ⟨p, hroot⟩ := root_of_readTag (by simpa using hinner) (balanced_inner ht hmem) hg
    refine ⟨g.atLine 1, p, by simpa using hroot, readWith_raw ht hmem hg, ?_⟩
    -- in the whole text it is the first piece that is refused
    rw [Fault.atLine_atLine_one, readWith_error_iff, readPieces_eq_mapM, mapM_eq_error_iff]
    refine .inl ⟨before, _, after, hps, ?_, hpiece⟩
    intro p hp
    have hmem' : p ∈ (Pieces.ofText bs s).pieces := by simp [hps, hp]
    exact ⟨_, (hok hmem' _).2 ⟨hbefore p hp, rfl⟩⟩

/-! ## 3. The limit -/

/-- The limit of nesting changes nothing about what is read. With it and without it, by the grammar
that reads contents as it reads texts, a text gives the same template; or it is refused for the same
tag that is never closed, on the same line; or both blame a path inside the same closed tag of the
text, the first that means nothing, and what is said is what is said of that tag by itself, with
lines counted from there. -/
theorem parse_unlimited (v : Version) (s : Text) :
    (∀ u, readUnlimited v.brackets u =
      readWith v.brackets (some (readUnlimited v.brackets)) u) ∧
    ((∃ t, parse v s = .ok t ∧ readUnlimited v.brackets s = .ok t) ∨
      (∃ line closer, parse v s = .error (.located line (.unclosedTag closer)) ∧
        readUnlimited v.brackets s = .error (.located line (.unclosedTag closer))) ∨
      ∃ before b content raw line after f g p q,
        (Pieces.ofText v.brackets s).pieces = before ++ .tag b content raw line :: after ∧
        (∀ x ∈ before, v.brackets.Readable x) ∧
        f.root = .badPath p ∧ parse v raw = .error f ∧ parse v s = .error (f.atLine line) ∧
        g.root = .badPath q ∧ readUnlimited v.brackets raw = .error g ∧
          readUnlimited v.brackets s = .error (g.atLine line)) := by
  have ht := Brackets.tidy_brackets v
  refine ⟨readUnlimited_eq v.brackets, ?_⟩
  -- at the top of a text and inside its tags the two readers do the same
  have hparse : parse v = readWith v.brackets
      (some (readWith v.brackets (some (readDeep v.brackets 0)))) := rfl
  rw [hparse, readUnlimited_eq_twice]
  rcases all_readable_or_first v.brackets (Pieces.ofText v.brackets s).pieces with
    hall | ⟨before, b, content, raw, line, after, hps, hbefore, hmean⟩
  · rw [readWith_of_readable ht hall, readWith_of_readable ht hall]
    cases hfault : (Pieces.ofText v.brackets s).fault with
    | none => exact .inl ⟨_, rfl, rfl⟩
    | some f =>
      obtain ⟨b, _, -, -, -, rfl⟩ := fault_eq_some_iff.1 hfault
      exact .inr (.inl ⟨_, _, rfl, rfl⟩)
  · obtain ⟨f, p, hf, hfraw, hfs⟩ := readWith_of_not_meaningful ht
      (blamesPaths_readDeep ht 0) hps hbefore hmean
    obtain ⟨g, q, hg, hgraw, hgs⟩ := readWith_of_not_meaningful ht
      (blamesPaths_readUnlimited ht) hps hbefore hmean
    exact .inr (.inr ⟨before, b, content, raw, line, after, f, g, p, q, hps, hbefore, hf, hfraw,
      hfs, hg, hgraw, hgs⟩)

end Template

end SecretWeave
