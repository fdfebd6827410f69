import SecretWeave.Proofs.Tag.Cutting
import SecretWeave.Proofs.Traversal
import SecretWeave.Template.Parse

/-!
# The grammar of templates

Reading a text is a matter of its pieces. A tag stands for a variable when its trimmed content is a
name, and for a secret when its trimmed content is cut into runs without blanks and tags that are
variables, not all of them empty. A text is read exactly when no tag is left open and every tag is of
one of these two kinds, and then each piece gives one segment (`parse_grammar`).
-/

namespace SecretWeave

namespace Fault

theorem atLine_atLine_one (f : Fault) (line : Nat) :
    (f.atLine 1).atLine line = f.atLine line := by
  cases f with
  | located n g =>
    simp only [atLine_located]
    congr 1
    omega
  | _ => rfl

end Fault

/-! ## 1. What pieces are good for -/

namespace Piece

def isTag : Piece → Bool
  | .literal _ _ => false
  | .tag _ _ _ _ => true

def plain : Piece → Text
  | .literal text _ => text
  | .tag _ _ _ _ => []

/-- Whether a piece may stand in a path: a run without blanks and controls, or a variable. -/
def fitsPath : Piece → Bool
  | .literal text _ => text.all Text.isSolid
  | .tag _ content _ _ => Text.isName (Text.trim content)

def pathPart : Piece → PathPart
  | .literal text _ => .text text
  | .tag _ content raw _ => .var ⟨Text.trim content, raw⟩

end Piece

namespace Brackets

def inner (bs : Brackets) (content : Text) : List Piece :=
  (Pieces.ofText bs (Text.trim content)).pieces

/-- The contents of tags that mean something: a name, or a path that may embed variables. -/
def Meaningful (bs : Brackets) (content : Text) : Prop :=
  Text.isName (Text.trim content) = true ∨
    (∀ p ∈ bs.inner content, p.fitsPath = true) ∧
      ((∃ p ∈ bs.inner content, p.isTag = true) ∨ (bs.inner content).flatMap Piece.plain ≠ [])

/-- The pieces that can be read: literal runs, and tags that mean something. -/
def Readable (bs : Brackets) : Piece → Prop
  | .literal _ _ => True
  | .tag _ content _ _ => bs.Meaningful content

def segment (bs : Brackets) : Piece → Segment
  | .literal text _ => .literal text
  | .tag _ content raw _ =>
    if Text.isName (Text.trim content) then .var ⟨Text.trim content, raw⟩
    else if (bs.inner content).any Piece.isTag then
      .secret (.pattern ((bs.inner content).map Piece.pathPart)) raw
    else .secret (.path ((bs.inner content).flatMap Piece.plain)) raw

end Brackets

namespace Template

variable {bs : Brackets} {r : Option (Text → Except Fault Template)}

/-! ## 2. Paths -/

/-- Pieces are read one after the other. -/
theorem readPieces_eq_mapM (ps : List Piece) : readPieces r ps = ps.mapM (readPiece r) := by
  induction ps with
  | nil => rfl
  | cons p ps ih =>
    rw [readPieces]
    cases hp : readPiece r p with
    | error f => rw [mapM_cons_error_head hp]
    | ok s =>
      cases hps : readPieces r ps with
      | error f => rw [mapM_cons_error_tail hp (ih.symm.trans hps)]
      | ok ss => rw [mapM_cons_ok hp (ih.symm.trans hps)]

theorem readTag_of_isName {content : Text} (h : Text.isName (Text.trim content) = true)
    (raw : Text) : readTag r content raw = .ok (.var ⟨Text.trim content, raw⟩) :=
  if_pos h

theorem eq_secret_of_readTag {content raw : Text} {s : Segment}
    (h : Text.isName (Text.trim content) = false) (hs : readTag r content raw = .ok s) :
    ∃ p, s = .secret p raw := by
  unfold readTag at hs
  simp only [h, Bool.false_eq_true, if_false] at hs
  split at hs
  · cases hs
  · split at hs
    · cases hs
    · split at hs
      · cases hs
      · split at hs
        · cases hs
        · exact ⟨_, (Except.ok.inj hs).symm⟩

/-- A piece is a part of a path exactly if it fits into one. -/
theorem partOf?_of_readPiece {p : Piece} {s : Segment} (h : readPiece r p = .ok s) :
    partOf? s = if p.fitsPath then some p.pathPart else none := by
  cases p with
  | literal text raw =>
    obtain rfl := Except.ok.inj h
    rfl
  | tag b content raw line =>
    cases hname : Text.isName (Text.trim content) with
    | true =>
      rw [readPiece, readTag_of_isName hname] at h
      obtain rfl := Except.ok.inj h
      rw [Piece.fitsPath, hname]
      rfl
    | false =>
      -- a reference is no part of a path, whatever it is read as
      have htag : readTag r content raw = .ok s := by
        rw [readPiece] at h
        cases htag : readTag r content raw with
        | ok s' => rwa [htag] at h
        | error f => rw [htag] at h; cases h
      obtain ⟨q, rfl⟩ := eq_secret_of_readTag hname htag
      rw [Piece.fitsPath, hname]
      rfl

/-- Pieces are parts of a path exactly if all of them fit into one. -/
theorem parts?_of_readPieces {ps : List Piece} {ss : List Segment}
    (h : readPieces r ps = .ok ss) :
    parts? ss = if ps.all Piece.fitsPath then some (ps.map Piece.pathPart) else none := by
  rw [readPieces_eq_mapM, mapM_eq_ok_iff] at h
  induction h with
  | nil => rfl
  | @cons p s ps ss hp _ ih =>
    rw [parts?, partOf?_of_readPiece hp, ih, List.all_cons]
    cases p.fitsPath <;> cases ps.all Piece.fitsPath <;> rfl

theorem readPieces_of_fitsPath {ps : List Piece} (h : ps.all Piece.fitsPath = true) :
    ∃ ss, readPieces r ps = .ok ss := by
  induction ps with
  | nil => exact ⟨[], rfl⟩
  | cons p ps ih =>
    rw [List.all_cons, Bool.and_eq_true] at h
    obtain ⟨ss, hss⟩ := ih h.2
    have hp : ∃ s, readPiece r p = .ok s := by
      cases p with
      | literal text raw => exact ⟨_, rfl⟩
      | tag b content raw line =>
        refine ⟨.var ⟨Text.trim content, raw⟩, ?_⟩
        rw [readPiece, readTag_of_isName h.1]
    obtain ⟨s, hs⟩ := hp
    rw [readPieces_eq_mapM] at hss ⊢
    exact ⟨s :: ss, mapM_cons_ok hs hss⟩

theorem any_embedded?_pathPart (ps : List Piece) :
    (ps.map Piece.pathPart).any (fun p => p.embedded?.isSome) = ps.any Piece.isTag := by
  rw [List.any_map]
  congr 1
  funext p
  cases p <;> rfl

theorem source_pathPart {ps : List Piece} (h : ps.any Piece.isTag = false) :
    (ps.map Piece.pathPart).flatMap PathPart.source = ps.flatMap Piece.plain := by
  rw [List.flatMap_map]
  apply List.flatMap_congr
  intro p hp
  cases p with
  | literal text raw => rfl
  | tag b content raw line => simpa [Piece.isTag] using List.any_eq_false.1 h _ hp

theorem isPath_plain {ps : List Piece} (h : ps.all Piece.fitsPath = true) :
    Text.isPath (ps.flatMap Piece.plain) = true ↔ ps.flatMap Piece.plain ≠ [] := by
  have hsolid : (ps.flatMap Piece.plain).all Text.isSolid = true := by
    rw [List.all_eq_true] at h ⊢
    intro c hc
    obtain ⟨p, hp, hcp⟩ := List.mem_flatMap.1 hc
    cases p with
    | literal text raw => exact List.all_eq_true.1 (h _ hp) c hcp
    | tag b content raw line => cases hcp
  rw [Text.isPath, hsolid, Bool.and_true]
  cases ps.flatMap Piece.plain <;> simp

/-! ## 3. Tags -/

/-- A reference is read as its pieces say, if its content is closed. -/
theorem readTag_of_not_isName {content : Text} (hname : Text.isName (Text.trim content) = false)
    (hfault : (Pieces.ofText bs (Text.trim content)).fault = none) (raw : Text) :
    readTag (some (readWith bs r)) content raw =
      match readPieces r (bs.inner content) with
      | .error f => .error (f.atLine (Text.newlines (Text.indentation content) + 1))
      | .ok _ =>
        if (bs.inner content).all Piece.fitsPath then
          match pathOf ((bs.inner content).map Piece.pathPart) with
          | .error f => .error f
          | .ok p => .ok (.secret p raw)
        else .error (.badPath (Text.trim content)) := by
  unfold readTag readWith
  simp only [hname, hfault, Bool.false_eq_true, if_false]
  rw [← Brackets.inner]
  cases hps : readPieces r (bs.inner content) with
  | error f => rfl
  | ok ss =>
    dsimp only
    rw [parts?_of_readPieces hps]
    cases (bs.inner content).all Piece.fitsPath with
    | true => rfl
    | false => rfl

/-- Parts with a variable are a pattern, and others have to be a path. -/
theorem pathOf_pathPart {ps : List Piece} (hfit : ps.all Piece.fitsPath = true) :
    pathOf (ps.map Piece.pathPart) =
      if ps.any Piece.isTag then .ok (.pattern (ps.map Piece.pathPart))
      else if ps.flatMap Piece.plain ≠ [] then .ok (.path (ps.flatMap Piece.plain))
      else .error (.badPath (ps.flatMap Piece.plain)) := by
  unfold pathOf
  rw [any_embedded?_pathPart]
  cases htag : ps.any Piece.isTag with
  | true => rfl
  | false => simp only [source_pathPart htag, isPath_plain hfit, Bool.false_eq_true, if_false]

/-- What a tag holds decides whether it is read, and what it is read as. -/
theorem readTag_eq_ok_iff {b : Bracket} {content raw : Text} {line : Nat} {s : Segment}
    (hfault : (Pieces.ofText bs (Text.trim content)).fault = none) :
    readTag (some (readWith bs r)) content raw = .ok s ↔
      bs.Meaningful content ∧ bs.segment (.tag b content raw line) = s := by
  unfold Brackets.Meaningful Brackets.segment
  -- a name is read without a look inside
  cases hname : Text.isName (Text.trim content) with
  | true =>
    rw [readTag_of_isName hname]
    simp [hname]
  | false =>
    rw [readTag_of_not_isName hname hfault]
    by_cases hfit : (bs.inner content).all Piece.fitsPath = true
    · -- pieces that fit a path are read whatever the depth, so only the path is left to check
      obtain ⟨ss, hss⟩ := readPieces_of_fitsPath (r := r) hfit
      have hall := List.all_eq_true.1 hfit
      -- the match on the reading goes away, what stays is how the path is made up
      simp only [hss, hfit, if_true, pathOf_pathPart hfit, hname, Bool.false_eq_true, if_false,
        false_or]
      cases htag : (bs.inner content).any Piece.isTag with
      | true => simp +contextual [hall, List.any_eq_true.1 htag]
      | false =>
        have hnone : ¬ ∃ p ∈ bs.inner content, p.isTag = true := by
          rintro ⟨p, hp, hpt⟩
          exact absurd hpt (List.any_eq_false.1 htag p hp)
        by_cases hplain : (bs.inner content).flatMap Piece.plain = []
        · simp [hplain, hnone]
        · simp +contextual [hplain, hall]
    · have hall : ¬ ∀ p ∈ bs.inner content, p.fitsPath = true := fun h =>
        hfit (List.all_eq_true.2 h)
      cases readPieces r (bs.inner content) with
      | error f => simp [hall]
      | ok ss => simp [hall, hfit]

/-! ## 4. Texts -/

section Readers

variable {read read' : Text → Except Fault Template}

theorem readPieces_congr {ps : List Piece}
    (h : ∀ b content raw line, .tag b content raw line ∈ ps →
      read (Text.trim content) = read' (Text.trim content)) :
    readPieces (some read) ps = readPieces (some read') ps := by
  induction ps with
  | nil => rfl
  | cons p ps ih =>
    have hps := ih fun b content raw line hp => h b content raw line (List.mem_cons_of_mem p hp)
    have hp : readPiece (some read) p = readPiece (some read') p := by
      cases p with
      | literal text raw => rfl
      | tag b content raw line =>
        simp only [readPiece, readTag, h b content raw line List.mem_cons_self]
    rw [readPieces, readPieces, hp, hps]

/-- A text is read by what its own tags hold, whatever a reader does elsewhere. -/
theorem readWith_congr {s : Text}
    (h : ∀ b content raw line, .tag b content raw line ∈ (Pieces.ofText bs s).pieces →
      read (Text.trim content) = read' (Text.trim content)) :
    readWith bs (some read) s = readWith bs (some read') s := by
  rw [readWith, readWith, readPieces_congr h]

end Readers

theorem balanced_inner (ht : bs.Tidy) {b : Bracket} {s content raw : Text} {line : Nat}
    (h : Piece.tag b content raw line ∈ (Pieces.ofText bs s).pieces) :
    bs.Balanced (Text.trim content) :=
  (ht.fault_eq_none_iff 1).1 (ht.fault_inner h)

/-- A piece is read exactly if it is readable, and then as its segment. -/
theorem readPiece_eq_ok_iff (ht : bs.Tidy) {s : Text} {p : Piece}
    (hp : p ∈ (Pieces.ofText bs s).pieces) (seg : Segment) :
    readPiece (some (readWith bs r)) p = .ok seg ↔ bs.Readable p ∧ bs.segment p = seg := by
  cases p with
  | literal text raw => simp [readPiece, Brackets.Readable, Brackets.segment]
  | tag b content raw line =>
    rw [Brackets.Readable, ← readTag_eq_ok_iff (r := r) (ht.fault_inner hp), readPiece]
    cases readTag (some (readWith bs r)) content raw <;> simp

/-- A text is read exactly if all pieces are and no tag stays open. -/
theorem readWith_ok_iff {s : Text} {t : Template} :
    readWith bs r s = .ok t ↔
      readPieces r (Pieces.ofText bs s).pieces = .ok t.segments ∧
        (Pieces.ofText bs s).fault = none := by
  obtain ⟨segments⟩ := t
  unfold readWith
  dsimp only
  cases readPieces r (Pieces.ofText bs s).pieces with
  | error f => simp
  | ok ss => cases (Pieces.ofText bs s).fault <;> simp

/-- A reading fails for a piece or, if there is none, for the open tag. -/
theorem readWith_error_iff {s : Text} {f : Fault} :
    readWith bs r s = .error f ↔
      readPieces r (Pieces.ofText bs s).pieces = .error f ∨
        (∃ ss, readPieces r (Pieces.ofText bs s).pieces = .ok ss) ∧
          (Pieces.ofText bs s).fault = some f := by
  unfold readWith
  dsimp only
  cases readPieces r (Pieces.ofText bs s).pieces with
  | error g => simp
  | ok ss => cases (Pieces.ofText bs s).fault <;> simp

theorem readPieces_eq_ok_iff (ht : bs.Tidy) {s : Text} {ss : List Segment} :
    readPieces (some (readWith bs r)) (Pieces.ofText bs s).pieces = .ok ss ↔
      (∀ p ∈ (Pieces.ofText bs s).pieces, bs.Readable p) ∧
        ss = (Pieces.ofText bs s).pieces.map bs.segment := by
  rw [readPieces_eq_mapM]
  exact mapM_eq_ok_iff_map fun p hp seg => readPiece_eq_ok_iff ht hp seg

theorem readWith_eq_ok_iff (ht : bs.Tidy) {s : Text} {t : Template} :
    readWith bs (some (readWith bs r)) s = .ok t ↔
      bs.Balanced s ∧ (∀ p ∈ (Pieces.ofText bs s).pieces, bs.Readable p) ∧
        t.segments = (Pieces.ofText bs s).pieces.map bs.segment := by
  rw [readWith_ok_iff, readPieces_eq_ok_iff ht, ← ht.fault_eq_none_iff 1]
  exact and_comm

/-- Only tags are at fault. -/
theorem exists_tag_of_readPiece {p : Piece} {f : Fault} (h : readPiece r p = .error f) :
    ∃ b content raw line g, p = .tag b content raw line ∧ readTag r content raw = .error g ∧
      f = g.atLine line := by
  cases p with
  | literal text raw => cases h
  | tag b content raw line =>
    rw [readPiece] at h
    cases htag : readTag r content raw with
    | ok s => rw [htag] at h; cases h
    | error g =>
      rw [htag] at h
      exact ⟨b, content, raw, line, g, rfl, htag, (Except.error.inj h).symm⟩

section Faults

/-- A reader that finds fault with paths only, as long as no tag is left open. -/
def BlamesPaths (bs : Brackets) (read : Text → Except Fault Template) : Prop :=
  ∀ s f, bs.Balanced s → read s = .error f → ∃ p, f.root = .badPath p

theorem badPath_of_pathOf {parts : List PathPart} {f : Fault} (h : pathOf parts = .error f) :
    ∃ p, f = .badPath p := by
  unfold pathOf at h
  dsimp only at h
  split at h
  · cases h
  · split at h
    · cases h
    · exact ⟨_, (Except.error.inj h).symm⟩

/-- A closed tag is refused for a path. -/
theorem root_of_readTag (hread : ∀ reader, r = some reader → BlamesPaths bs reader) {content raw : Text}
    (hbal : bs.Balanced (Text.trim content)) {f : Fault}
    (h : readTag r content raw = .error f) : ∃ p, f.root = .badPath p := by
  unfold readTag at h
  dsimp only at h
  split at h
  · cases h
  · split at h
    -- the tag stands too deep for a reference
    · obtain rfl := Except.error.inj h
      exact ⟨_, rfl⟩
    · rename_i reader
      split at h
      -- its content cannot be read
      · rename_i g hg
        obtain rfl := Except.error.inj h
        rw [Fault.root_atLine]
        exact hread reader rfl _ g hbal hg
      · split at h
        -- its content holds more than text and variables, or no path
        · obtain rfl := Except.error.inj h
          exact ⟨_, rfl⟩
        · split at h
          · rename_i g hg
            obtain rfl := Except.error.inj h
            obtain ⟨p, rfl⟩ := badPath_of_pathOf hg
            exact ⟨p, rfl⟩
          · cases h

theorem blamesPaths_readWith (ht : bs.Tidy) (hread : ∀ reader, r = some reader → BlamesPaths bs reader) :
    BlamesPaths bs (readWith bs r) := by
  intro s f hbal h
  rcases readWith_error_iff.1 h with h | ⟨-, h⟩
  · rw [readPieces_eq_mapM, mapM_eq_error_iff] at h
    obtain ⟨p, hp, hpf⟩ := h.exists_mem
    obtain ⟨b, content, raw, line, g, rfl, hg, rfl⟩ := exists_tag_of_readPiece hpf
    rw [Fault.root_atLine]
    exact root_of_readTag hread (balanced_inner ht hp) hg
  · -- the text leaves no tag open, so nothing is found behind its pieces
    have hnone : (Pieces.ofText bs s).fault = none := ht.fault_of_balanced hbal 1
    rw [hnone] at h
    cases h

/-- At every depth only paths are refused in a closed text. -/
theorem blamesPaths_readDeep (ht : bs.Tidy) (depth : Nat) : BlamesPaths bs (readDeep bs depth) := by
  -- a tag's content is balanced, so that no depth brings in a fault of another kind
  induction depth with
  | zero => exact blamesPaths_readWith ht (by simp)
  | succ depth ih =>
    apply blamesPaths_readWith ht
    intro reader hr
    obtain rfl := Option.some.inj hr
    exact ih

end Faults

/-- What a tag cannot be read for, its own text cannot be read for, with lines counted from there. -/
theorem readWith_raw (ht : bs.Tidy) {b : Bracket} {s content raw : Text} {line : Nat} {g : Fault}
    (h : Piece.tag b content raw line ∈ (Pieces.ofText bs s).pieces)
    (hg : readTag r content raw = .error g) : readWith bs r raw = .error (g.atLine 1) := by
  -- the tag alone is cut into just itself, on the first line
  rw [readWith_error_iff, ht.ofText_raw h]
  left
  rw [readPieces, readPiece, hg]

/-! ## 5. Accepting and refusing -/

variable {v : Version} {s : Text}

theorem parse_eq_ok_iff {t : Template} :
    parse v s = .ok t ↔
      v.brackets.Balanced s ∧ (∀ p ∈ (Pieces.ofText v.brackets s).pieces, v.brackets.Readable p) ∧
        t.segments = (Pieces.ofText v.brackets s).pieces.map v.brackets.segment :=
  readWith_eq_ok_iff (r := some (readDeep v.brackets 0)) (Brackets.tidy_brackets v)

/-- The first of the pieces that cannot be read is a closed tag, and what is wrong is its path. -/
theorem fault_of_readPieces {f : Fault}
    (h : readPieces (some (readDeep v.brackets 1)) (Pieces.ofText v.brackets s).pieces = .error f) :
    ∃ before b content raw line after,
      (Pieces.ofText v.brackets s).pieces = before ++ .tag b content raw line :: after ∧
      (∀ p ∈ before, v.brackets.Readable p) ∧ ¬ v.brackets.Meaningful content ∧
      (∃ p, f.root = .badPath p) ∧ ∃ g, parse v raw = .error g ∧ f = g.atLine line := by
  have ht := Brackets.tidy_brackets v
  have hok := fun {p} hp seg =>
    readPiece_eq_ok_iff (r := some (readDeep v.brackets 0)) (s := s) (p := p) ht hp seg
  rw [readPieces_eq_mapM, mapM_eq_error_iff] at h
  obtain ⟨before, p, after, hps, hbefore, hpf⟩ := h
  obtain ⟨b, content, raw, line, g, rfl, hg, rfl⟩ := exists_tag_of_readPiece hpf
  have hmem : .tag b content raw line ∈ (Pieces.ofText v.brackets s).pieces := by simp [hps]
  refine ⟨before, b, content, raw, line, after, hps, ?_, ?_, ?_, g.atLine 1,
    readWith_raw ht hmem hg, (Fault.atLine_atLine_one g line).symm⟩
  · intro p hp
    have hp' : p ∈ (Pieces.ofText v.brackets s).pieces := by simp [hps, hp]
    obtain ⟨seg, hseg⟩ := hbefore p hp
    exact ((hok hp' seg).1 hseg).1
  · intro hmean
    -- a tag that means something would have been read
    cases hpf.symm.trans ((hok hmem _).2 ⟨hmean, rfl⟩)
  · rw [Fault.root_atLine]
    apply root_of_readTag _ (balanced_inner ht hmem) hg
    intro reader hr
    obtain rfl := Option.some.inj hr
    exact blamesPaths_readDeep ht 1

/-- The cutting ends at a tag that is never closed. -/
theorem unclosed_of_fault {f : Fault} (h : (Pieces.ofText v.brackets s).fault = some f) :
    ∃ b rest, s = (Pieces.ofText v.brackets s).raw ++ rest ∧ v.brackets.opener? rest = some b ∧
      v.brackets.closer? b (rest.drop b.opener.length) = none ∧ f.root = .unclosedTag b.closer := by
  obtain ⟨rest, hrest, ⟨hnone, -⟩ | ⟨b, hb, hopen, hfault⟩⟩ := v.brackets.cut_rest 1 s
  · rw [Pieces.ofText, hnone] at h
    cases h
  · rw [Pieces.ofText, hfault] at h
    obtain rfl := Option.some.inj h
    exact ⟨b, rest, hrest, hb, hopen, by simp [Fault.root]⟩

/-- What a text cannot be read for: a reference without a path, or a tag left open. -/
theorem root_of_parse {f : Fault} (h : parse v s = .error f) :
    (∃ p, f.root = .badPath p) ∨ ∃ c, f.root = .unclosedTag c := by
  rcases readWith_error_iff.1 h with hps | ⟨-, hrest⟩
  · obtain ⟨_, _, _, _, _, _, -, -, -, hroot, -⟩ := fault_of_readPieces hps
    exact .inl hroot
  · obtain ⟨b, _, -, -, -, hroot⟩ := unclosed_of_fault hrest
    exact .inr ⟨_, hroot⟩

/-- Texts are read by their grammar. A text is read exactly when its tags are closed and each of them
means something, and then every piece gives one segment. Otherwise the fault is about the first tag
that is not like this: either it is closed and holds no path, and then its own text has the same
fault, or it is never closed and none before it is at fault. No tag is left open inside a closed
one. -/
theorem parse_grammar (v : Version) (s : Text) :
    ((∃ t, parse v s = .ok t) ↔
      v.brackets.Balanced s ∧ ∀ p ∈ (Pieces.ofText v.brackets s).pieces, v.brackets.Readable p) ∧
    (∀ t, parse v s = .ok t →
      t.segments = (Pieces.ofText v.brackets s).pieces.map v.brackets.segment) ∧
    (∀ f, parse v s = .error f →
      (∃ before b content raw line after,
        (Pieces.ofText v.brackets s).pieces = before ++ .tag b content raw line :: after ∧
        (∀ p ∈ before, v.brackets.Readable p) ∧ ¬ v.brackets.Meaningful content ∧
        (∃ p, f.root = .badPath p) ∧
        ∃ g, parse v raw = .error g ∧ f = g.atLine line) ∨
      ((∀ p ∈ (Pieces.ofText v.brackets s).pieces, v.brackets.Readable p) ∧
        ∃ b rest, s = (Pieces.ofText v.brackets s).raw ++ rest ∧
          v.brackets.opener? rest = some b ∧
          v.brackets.closer? b (rest.drop b.opener.length) = none ∧
          f.root = .unclosedTag b.closer)) ∧
    ∀ b content raw line, .tag b content raw line ∈ (Pieces.ofText v.brackets s).pieces →
      v.brackets.Balanced (Text.trim content) := by
  have ht := Brackets.tidy_brackets v
  refine ⟨⟨?_, ?_⟩, ?_, ?_, ?_⟩
  · rintro ⟨t, h⟩
    exact ⟨(parse_eq_ok_iff.1 h).1, (parse_eq_ok_iff.1 h).2.1⟩
  · rintro ⟨hbal, hread⟩
    exact ⟨⟨_⟩, parse_eq_ok_iff.2 ⟨hbal, hread, rfl⟩⟩
  · intro t h
    exact (parse_eq_ok_iff.1 h).2.2
  · intro f h
    -- the pieces are read before the fault of the cutting is looked at
    rcases readWith_error_iff.1 h with hps | ⟨⟨ss, hss⟩, hrest⟩
    · exact .inl (fault_of_readPieces hps)
    · have hread := (readPieces_eq_ok_iff (r := some (readDeep v.brackets 0)) ht).1 hss
      exact .inr ⟨hread.1, unclosed_of_fault hrest⟩
  · intro b content raw line h
    exact balanced_inner ht h

end Template

end SecretWeave
