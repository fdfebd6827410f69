import SecretWeave.Proofs.Tag.Partition
import SecretWeave.Proofs.Template.Grammar

/-!
# Which tag is to blame

A text that cannot be read is refused for one of its tags, at the top of the text or somewhere
inside other tags. The fault names the line on which that very tag opens, counted from the start of
the whole text (`parse_blame`), although each level of nesting counts lines for itself and sees its
text without the blanks around it.
-/

namespace SecretWeave

namespace Brackets

variable {bs : Brackets} {n : Nat} {s content raw : Text} {b : Bracket} {line : Nat}

/-! ## 1. What a tag is refused for -/

/-- The pieces that are read where references may be nested `n` deep. At the greatest depth a tag
has to be a name. -/
def Accepted (bs : Brackets) : Nat → Piece → Prop
  | _, .literal _ _ => True
  | 0, .tag _ content _ _ => Text.isName (Text.trim content) = true
  | _ + 1, .tag _ content _ _ => bs.Meaningful content

theorem accepted_succ_iff {p : Piece} : bs.Accepted (n + 1) p ↔ bs.Readable p := by
  cases p <;> rfl

/-- Contents that are no path in themselves: only blanks, a run with a blank or a control in it, or
a reference to another secret. -/
inductive Refused (bs : Brackets) (content : Text) : Prop
  | empty (h : Text.trim content = [])
  | blank {text raw : Text} (h : .literal text raw ∈ bs.inner content)
      (hblank : text.all Text.isSolid = false)
  | secret {b : Bracket} {inside raw : Text} {line : Nat}
      (h : .tag b inside raw line ∈ bs.inner content)
      (hname : Text.isName (Text.trim inside) = false)

/-- Whether a tag is at fault for its own content, where references may be nested `n` deep: it
stands too deep for a reference, or all inside it is read and what it holds is no path. -/
inductive Offends (bs : Brackets) : Nat → Text → Prop
  | deep {content : Text} : Offends bs 0 content
  | path {n : Nat} {content : Text} (hinner : ∀ p ∈ bs.inner content, bs.Accepted n p)
      (h : bs.Refused content) : Offends bs (n + 1) content

/-- The tag of a text that is to blame, and what stands before it in the text. It is the first that
cannot be read, or, when that is for something inside it, the one to blame there. -/
inductive Blamed (bs : Brackets) : Nat → (s before : Text) → Bracket → (content : Text) → Prop
  | here {n : Nat} {s content raw : Text} {b : Bracket} {line : Nat} {pre post : List Piece}
      (hps : (Pieces.ofText bs s).pieces = pre ++ .tag b content raw line :: post)
      (hpre : ∀ p ∈ pre, bs.Accepted n p) (hname : Text.isName (Text.trim content) = false)
      (h : bs.Offends n content) : Blamed bs n s (pre.flatMap Piece.raw) b content
  | inside {n : Nat} {s content raw : Text} {b : Bracket} {line : Nat} {pre post : List Piece}
      {before inner : Text} {b' : Bracket}
      (hps : (Pieces.ofText bs s).pieces = pre ++ .tag b content raw line :: post)
      (hpre : ∀ p ∈ pre, bs.Accepted (n + 1) p) (hname : Text.isName (Text.trim content) = false)
      (h : Blamed bs n (Text.trim content) before b' inner) :
      Blamed bs (n + 1) s
        (pre.flatMap Piece.raw ++ (b.opener ++ Text.indentation content) ++ before) b' inner

/-! ## 2. Where a tag stands -/

theorem exists_trim_append (s : Text) :
    ∃ trail, s = Text.indentation s ++ Text.trim s ++ trail := by
  obtain ⟨trail, htrail, -⟩ := exists_trimEnd_append (Text.trimStart s)
  refine ⟨trail, ?_⟩
  rw [Text.trim, List.append_assoc, ← htrail, Text.indentation_append_trimStart]

/-- A tag among the pieces stands in the text behind the raw pieces before it. -/
theorem eq_append_of_pieces {pre post : List Piece}
    (h : (Pieces.ofText bs s).pieces = pre ++ .tag b content raw line :: post) :
    b ∈ bs ∧ ∃ after, s = pre.flatMap Piece.raw ++ (b.opener ++ content ++ b.closer) ++ after := by
  obtain ⟨rest, hs, -⟩ := bs.cut_rest 1 s
  obtain ⟨hb, hraw, -⟩ := tag_of_cut h
  refine ⟨hb, post.flatMap Piece.raw ++ rest, ?_⟩
  have hflat : (bs.cut 1 s).pieces.flatMap Piece.raw =
      pre.flatMap Piece.raw ++ (raw ++ post.flatMap Piece.raw) := by
    rw [show (bs.cut 1 s).pieces = _ from h, List.flatMap_append, List.flatMap_cons]
    rfl
  rw [hflat, hraw] at hs
  simpa only [List.append_assoc] using hs

theorem Tidy.fault_inner_of_pieces (ht : Tidy bs) {pre post : List Piece}
    (h : (Pieces.ofText bs s).pieces = pre ++ .tag b content raw line :: post) :
    (Pieces.ofText bs (Text.trim content)).fault = none := by
  have hmem : .tag b content raw line ∈ (Pieces.ofText bs s).pieces := by simp [h]
  exact ht.fault_inner hmem

/-- The blamed tag is part of the text, behind what is said to stand before it. -/
theorem Blamed.eq_append {before : Text} (h : bs.Blamed n s before b content) :
    b ∈ bs ∧ ∃ after, s = before ++ (b.opener ++ content ++ b.closer) ++ after := by
  induction h with
  | here hps => exact eq_append_of_pieces hps
  | @inside n s outer raw b line pre post before content b' hps _ _ _ ih =>
    obtain ⟨hb', after', hinner⟩ := ih
    obtain ⟨-, after, hs⟩ := eq_append_of_pieces hps
    obtain ⟨trail, houter⟩ := exists_trim_append outer
    refine ⟨hb', after' ++ trail ++ b.closer ++ after, ?_⟩
    -- the outer tag around the blanks around the text in which the blamed tag stands
    calc s = pre.flatMap Piece.raw ++ (b.opener ++ outer ++ b.closer) ++ after := hs
      _ = pre.flatMap Piece.raw ++ (b.opener ++ (Text.indentation outer ++
            (before ++ (b'.opener ++ content ++ b'.closer) ++ after') ++ trail) ++ b.closer) ++
            after := by rw [← hinner, ← houter]
      _ = _ := by simp only [List.append_assoc]

/-! ## 3. Contents that mean nothing -/

theorem Unmarked.ne_nil {text : Text} (h : Unmarked bs raw text) (hraw : raw ≠ []) : text ≠ [] := by
  cases h with
  | nil => exact absurd rfl hraw
  | @escaped _ text b =>
    have hopen := b.opener_ne_nil
    simp [hopen]
  | char => exact List.cons_ne_nil _ _

theorem Tidy.newlines_opener (ht : Tidy bs) (hb : b ∈ bs) : Text.newlines b.opener = 0 := by
  rw [Text.newlines, List.count_eq_zero]
  intro h
  have hsolid := ht.opener_solid b hb _ h
  cases hsolid

/-- A text that is cut to its end without tags and without text is empty. -/
theorem eq_nil_of_plain (hfault : (Pieces.ofText bs s).fault = none)
    (htag : ∀ p ∈ (Pieces.ofText bs s).pieces, p.isTag = false)
    (hplain : (Pieces.ofText bs s).pieces.flatMap Piece.plain = []) : s = [] := by
  have hnone : (Pieces.ofText bs s).pieces = [] := by
    rw [List.eq_nil_iff_forall_not_mem]
    intro p hp
    cases p with
    | tag b content raw line => cases htag _ hp
    | literal text raw =>
      -- a run is not empty, and no run without text is
      have hraw : raw ≠ [] := raw_ne_nil_of_mem_cut hp
      exact (unmarked_of_mem_cut hp).ne_nil hraw (List.flatMap_eq_nil_iff.1 hplain _ hp)
  obtain ⟨rest, hs, ⟨-, rfl⟩ | ⟨b, -, -, hsome⟩⟩ := bs.cut_rest 1 s
  · rw [hs, show (bs.cut 1 s).pieces = [] from hnone]
    rfl
  · rw [Pieces.ofText, hsome] at hfault
    cases hfault

/-- A closed content means nothing exactly if it is refused. -/
theorem not_meaningful_iff (hname : Text.isName (Text.trim content) = false)
    (hfault : (Pieces.ofText bs (Text.trim content)).fault = none) :
    ¬ bs.Meaningful content ↔ bs.Refused content := by
  constructor
  · intro h
    by_cases hfit : ∀ p ∈ bs.inner content, p.fitsPath = true
    · -- all fits a path, so there is nothing there to make one up
      have hempty : ¬ ((∃ p ∈ bs.inner content, p.isTag = true) ∨
          (bs.inner content).flatMap Piece.plain ≠ []) := fun hsome => h (.inr ⟨hfit, hsome⟩)
      rw [not_or, not_not] at hempty
      refine .empty (eq_nil_of_plain hfault ?_ hempty.2)
      intro p hp
      rw [Bool.eq_false_iff]
      exact fun htag => hempty.1 ⟨p, hp, htag⟩
    · push Not at hfit
      obtain ⟨p, hp, hpfit⟩ := hfit
      rw [← Bool.eq_false_iff] at hpfit
      cases p with
      | literal text raw => exact .blank hp hpfit
      | tag b inside raw line => exact .secret hp hpfit
  · rintro h (hname' | ⟨hfit, hsome⟩)
    · rw [hname] at hname'
      cases hname'
    · cases h with
      | empty h =>
        rw [inner, h] at hsome
        simp [Pieces.ofText, cut] at hsome
      | blank hp hblank => cases hblank.symm.trans (hfit _ hp)
      | secret hp hname' => cases hname'.symm.trans (hfit _ hp)

end Brackets

namespace Template

variable {bs : Brackets} {n : Nat} {s content raw : Text} {f g : Fault}

/-! ## 4. Reading at a depth -/

/-- How the contents of tags are read where references may be nested `n` deep. -/
def reader? (bs : Brackets) : Nat → Option (Text → Except Fault Template)
  | 0 => none
  | n + 1 => some (readDeep bs n)

theorem readDeep_eq_readWith (bs : Brackets) (n : Nat) :
    readDeep bs n = readWith bs (reader? bs n) := by
  cases n <;> rfl

/-- A piece is read exactly if it is accepted. -/
theorem exists_readPiece_iff (ht : bs.Tidy) {p : Piece} (hp : p ∈ (Pieces.ofText bs s).pieces) :
    (∃ seg, readPiece (reader? bs n) p = .ok seg) ↔ bs.Accepted n p := by
  cases n with
  | zero =>
    cases p with
    | literal text raw => simp [readPiece, Brackets.Accepted]
    | tag b content raw line =>
      unfold Brackets.Accepted readPiece readTag reader?
      by_cases hname : Text.isName (Text.trim content) = true <;> simp [hname]
  | succ n =>
    rw [Brackets.accepted_succ_iff, reader?, readDeep_eq_readWith]
    simp [readPiece_eq_ok_iff ht hp]

theorem exists_readPieces_iff (ht : bs.Tidy) :
    (∃ ss, readPieces (reader? bs n) (Pieces.ofText bs s).pieces = .ok ss) ↔
      ∀ p ∈ (Pieces.ofText bs s).pieces, bs.Accepted n p := by
  simp only [readPieces_eq_mapM, exists_mapM_iff]
  exact forall₂_congr fun p hp => exists_readPiece_iff ht hp

/-- Pieces are refused for the first tag that is not accepted, on its line. -/
theorem readPieces_eq_error_iff (ht : bs.Tidy) :
    readPieces (reader? bs n) (Pieces.ofText bs s).pieces = .error f ↔
      ∃ pre b content raw line post g,
        (Pieces.ofText bs s).pieces = pre ++ .tag b content raw line :: post ∧
        (∀ p ∈ pre, bs.Accepted n p) ∧ readTag (reader? bs n) content raw = .error g ∧
        f = g.atLine (1 + Text.newlines (pre.flatMap Piece.raw)) := by
  rw [readPieces_eq_mapM, mapM_eq_error_iff]
  constructor
  · rintro ⟨pre, p, post, hps, hpre, hp⟩
    -- only a tag is refused, and its line was counted when it was cut
    obtain ⟨b, content, raw, line, g, rfl, hg, rfl⟩ := exists_tag_of_readPiece hp
    refine ⟨pre, b, content, raw, line, post, g, hps, ?_, hg, ?_⟩
    · intro p hp
      have hmem : p ∈ (Pieces.ofText bs s).pieces := by simp [hps, hp]
      exact (exists_readPiece_iff ht hmem).1 (hpre p hp)
    · rw [(Brackets.tag_of_cut hps).2.2]
  · rintro ⟨pre, b, content, raw, line, post, g, hps, hpre, hg, rfl⟩
    refine ⟨pre, _, post, hps, ?_, ?_⟩
    · intro p hp
      have hmem : p ∈ (Pieces.ofText bs s).pieces := by simp [hps, hp]
      exact (exists_readPiece_iff ht hmem).2 (hpre p hp)
    · rw [readPiece, hg, (Brackets.tag_of_cut hps).2.2]

/-- What a tag is refused for when all inside it is read is its whole content. -/
theorem eq_badPath_of_readTag {r : Option (Text → Except Fault Template)} {ss : List Segment}
    (hname : Text.isName (Text.trim content) = false)
    (hfault : (Pieces.ofText bs (Text.trim content)).fault = none)
    (hss : readPieces r (bs.inner content) = .ok ss)
    (hg : readTag (some (readWith bs r)) content raw = .error g) :
    g = .badPath (Text.trim content) := by
  rw [readTag_of_not_isName hname hfault, hss] at hg
  by_cases hfit : (bs.inner content).all Piece.fitsPath = true
  · simp only [hfit, if_true, pathOf_pathPart hfit] at hg
    cases htag : (bs.inner content).any Piece.isTag with
    | true => simp only [htag, if_true] at hg; cases hg
    | false =>
      by_cases hplain : (bs.inner content).flatMap Piece.plain = []
      · -- the path is empty, and so is all that was trimmed
        have hnil : Text.trim content = [] := by
          apply Brackets.eq_nil_of_plain hfault _ hplain
          intro p hp
          simpa using List.any_eq_false.1 htag p hp
        simp only [htag, hplain, ne_eq, not_true_eq_false, if_false, Bool.false_eq_true] at hg
        rw [hnil, Except.error.inj hg]
      · simp only [htag, hplain, ne_eq, not_false_eq_true, if_true, if_false,
          Bool.false_eq_true] at hg
        cases hg
  · simp only [hfit, if_false, Bool.false_eq_true] at hg
    exact (Except.error.inj hg).symm

/-- A reference is refused for its own content, or for what is inside it. -/
theorem readTag_eq_error_iff (ht : bs.Tidy)
    (hfault : (Pieces.ofText bs (Text.trim content)).fault = none) :
    readTag (reader? bs n) content raw = .error g ↔
      Text.isName (Text.trim content) = false ∧
        (bs.Offends n content ∧ g = .badPath (Text.trim content) ∨
          ∃ m f, n = m + 1 ∧ readPieces (reader? bs m) (bs.inner content) = .error f ∧
            g = f.atLine (Text.newlines (Text.indentation content) + 1)) := by
  cases hname : Text.isName (Text.trim content) with
  | true =>
    rw [readTag_of_isName hname]
    simp
  | false =>
    cases n with
    | zero =>
      -- nothing reads what is inside
      have hdeep : bs.Offends 0 content := .deep
      simp [readTag, reader?, hname, hdeep, eq_comm]
    | succ m =>
      rw [reader?, readDeep_eq_readWith]
      cases hps : readPieces (reader? bs m) (bs.inner content) with
      | error f =>
        -- the fault lies inside, and the tag itself is not to blame
        have hoff : ¬ bs.Offends (m + 1) content := by
          rintro (_ | ⟨hinner, -⟩)
          obtain ⟨ss, hss⟩ := (exists_readPieces_iff ht).2 hinner
          cases hss.symm.trans hps
        rw [readTag_of_not_isName hname hfault, hps]
        simp [hoff, eq_comm, hps]
      | ok ss =>
        -- all that is inside is read, so the tag is to blame if it means nothing
        have hinner := (exists_readPieces_iff ht).1 ⟨ss, hps⟩
        have hoff : bs.Offends (m + 1) content ↔ ¬ bs.Meaningful content := by
          rw [Brackets.not_meaningful_iff hname hfault]
          constructor
          · intro h
            cases h with
            | path _ hno => exact hno
          · exact .path hinner
        have hok : ∀ seg, readTag (some (readWith bs (reader? bs m))) content raw = .ok seg ↔
            bs.Meaningful content ∧ bs.segment (.tag .dollar content raw 0) = seg :=
          fun seg => readTag_eq_ok_iff hfault
        cases hread : readTag (some (readWith bs (reader? bs m))) content raw with
        | ok seg =>
          have hmean := ((hok seg).1 hread).1
          simp [hoff, hmean, hps]
        | error e =>
          have hmean : ¬ bs.Meaningful content := by
            intro h
            cases hread.symm.trans ((hok _).2 ⟨h, rfl⟩)
          obtain rfl := eq_badPath_of_readTag hname hfault hps hread
          simp [hoff, hmean, hps, eq_comm]

/-- The fault of a tag inside a tag has its line counted from the first line of the text. -/
theorem atLine_inside (ht : bs.Tidy) {b : Bracket} (hb : b ∈ bs) (pre indentation before : Text)
    (f : Fault) :
    ((Fault.located (1 + Text.newlines before) f).atLine (Text.newlines indentation + 1)).atLine
        (1 + Text.newlines pre) =
      .located (1 + Text.newlines (pre ++ (b.opener ++ indentation) ++ before)) f := by
  simp only [Fault.atLine_located, Text.newlines_append, ht.newlines_opener hb]
  congr 1
  omega

/-- A reading that fails blames a tag, with the line of its opener. -/
theorem exists_blamed (ht : bs.Tidy)
    (h : readPieces (reader? bs n) (Pieces.ofText bs s).pieces = .error f) :
    ∃ before b content, bs.Blamed n s before b content ∧
      f = .located (1 + Text.newlines before) (.badPath (Text.trim content)) := by
  induction n using Nat.strong_induction_on generalizing s f with
  | h n ih =>
    obtain ⟨pre, b, content, raw, line, post, g, hps, hpre, hg, rfl⟩ :=
      (readPieces_eq_error_iff ht).1 h
    obtain ⟨hname, ⟨hoff, rfl⟩ | ⟨m, f, rfl, hf, rfl⟩⟩ :=
      (readTag_eq_error_iff ht (ht.fault_inner_of_pieces hps)).1 hg
    · exact ⟨_, b, content, .here hps hpre hname hoff, rfl⟩
    · -- what is wrong is inside the tag, where references may be nested one level less
      obtain ⟨before, b', inner, hblamed, rfl⟩ := ih m (by omega) hf
      refine ⟨_, b', inner, .inside hps hpre hname hblamed, ?_⟩
      exact atLine_inside ht (Brackets.eq_append_of_pieces hps).1 _ _ _ _

/-- A blamed tag makes the reading fail, with the line of its opener. -/
theorem readPieces_of_blamed (ht : bs.Tidy) {before : Text} {b : Bracket}
    (h : bs.Blamed n s before b content) :
    readPieces (reader? bs n) (Pieces.ofText bs s).pieces =
      .error (.located (1 + Text.newlines before) (.badPath (Text.trim content))) := by
  induction h with
  | @here n s content raw b line pre post hps hpre hname hoff =>
    have hread : readTag (reader? bs n) content raw = .error (.badPath (Text.trim content)) :=
      (readTag_eq_error_iff ht (ht.fault_inner_of_pieces hps)).2 ⟨hname, .inl ⟨hoff, rfl⟩⟩
    exact (readPieces_eq_error_iff ht).2
      ⟨pre, b, content, raw, line, post, _, hps, hpre, hread, rfl⟩
  | @inside n s content raw b line pre post before inner b' hps hpre hname _ ih =>
    have hread : readTag (reader? bs (n + 1)) content raw = .error _ :=
      (readTag_eq_error_iff ht (ht.fault_inner_of_pieces hps)).2
        ⟨hname, .inr ⟨n, _, rfl, ih, rfl⟩⟩
    have hline := atLine_inside ht (Brackets.eq_append_of_pieces hps).1 (pre.flatMap Piece.raw)
      (Text.indentation content) before (.badPath (Text.trim inner))
    exact (readPieces_eq_error_iff ht).2
      ⟨pre, b, content, raw, line, post, _, hps, hpre, hread, hline.symm⟩

/-! ## 5. Blame -/

/-- The cutting ends at a tag that is never closed, and on its line. -/
theorem fault_eq_some_iff :
    (Pieces.ofText bs s).fault = some f ↔
      ∃ b rest, s = (Pieces.ofText bs s).raw ++ rest ∧ bs.opener? rest = some b ∧
        bs.closer? b (rest.drop b.opener.length) = none ∧
        f = .located (1 + Text.newlines (Pieces.ofText bs s).raw) (.unclosedTag b.closer) := by
  obtain ⟨left, hs, hend⟩ := bs.cut_rest 1 s
  rw [show (bs.cut 1 s).pieces.flatMap Piece.raw = (Pieces.ofText bs s).raw from rfl] at hs hend
  rw [show bs.cut 1 s = Pieces.ofText bs s from rfl] at hend
  rcases hend with ⟨hnone, rfl⟩ | ⟨b, hb, hopen, hsome⟩
  · rw [hnone]
    constructor
    · intro h
      cases h
    · rintro ⟨b, rest, hrest, hb, -⟩
      -- nothing is left in which a tag could be open
      obtain rfl := List.append_cancel_left (hs.symm.trans hrest)
      rw [Brackets.opener?_nil] at hb
      cases hb
  · rw [hsome, Option.some.injEq]
    constructor
    · rintro rfl
      exact ⟨b, left, hs, hb, hopen, rfl⟩
    · rintro ⟨b', rest, hrest, hb', -, rfl⟩
      obtain rfl := List.append_cancel_left (hs.symm.trans hrest)
      obtain rfl := Option.some.inj (hb.symm.trans hb')
      rfl

/-- A fault is placed once, on a line of the text. -/
theorem exists_prefix_of_parse {v : Version} (h : parse v s = .error f) :
    ∃ before, before <+: s ∧ f = .located (1 + Text.newlines before) f.root := by
  rw [parse, readDeep_eq_readWith] at h
  rcases readWith_error_iff.1 h with hps | ⟨-, hfault⟩
  · obtain ⟨before, b, content, hblamed, rfl⟩ := exists_blamed (Brackets.tidy_brackets v) hps
    obtain ⟨-, after, hs⟩ := hblamed.eq_append
    rw [List.append_assoc] at hs
    exact ⟨before, ⟨_, hs.symm⟩, rfl⟩
  · obtain ⟨b, rest, hs, -, -, rfl⟩ := fault_eq_some_iff.1 hfault
    exact ⟨_, ⟨rest, hs.symm⟩, rfl⟩

/-- A text is refused either for the path of the tag to blame, which may be inside other tags, or,
when each of its tags is read, for the tag that is never closed. The fault is placed once, on the
line where that tag opens in the text. -/
theorem parse_blame (v : Version) (s : Text) :
    (∀ f, Template.parse v s = .error f ↔
      (∃ before b content, v.brackets.Blamed maxDepth s before b content ∧
        f = .located (1 + Text.newlines before) (.badPath (Text.trim content))) ∨
      ((∀ p ∈ (Pieces.ofText v.brackets s).pieces, v.brackets.Readable p) ∧
        ∃ b rest, s = (Pieces.ofText v.brackets s).raw ++ rest ∧
          v.brackets.opener? rest = some b ∧
          v.brackets.closer? b (rest.drop b.opener.length) = none ∧
          f = .located (1 + Text.newlines (Pieces.ofText v.brackets s).raw)
            (.unclosedTag b.closer))) ∧
    ∀ before b content, v.brackets.Blamed maxDepth s before b content →
      b ∈ v.brackets ∧ ∃ after, s = before ++ (b.opener ++ content ++ b.closer) ++ after := by
  have ht := Brackets.tidy_brackets v
  refine ⟨?_, fun _ _ _ h => h.eq_append⟩
  intro f
  have hpath : readPieces (reader? v.brackets maxDepth) (Pieces.ofText v.brackets s).pieces =
      .error f ↔ ∃ before b content, v.brackets.Blamed maxDepth s before b content ∧
        f = .located (1 + Text.newlines before) (.badPath (Text.trim content)) := by
    constructor
    · exact exists_blamed ht
    · rintro ⟨before, b, content, h, rfl⟩
      exact readPieces_of_blamed ht h
  rw [parse, readDeep_eq_readWith, readWith_error_iff, exists_readPieces_iff ht, hpath,
    fault_eq_some_iff]
  simp only [maxDepth, Brackets.accepted_succ_iff]

-- the path with a blank stands two levels deep, on the third line of the text
example : parse .v2 "a\n\x7b\x7b\n  $\x7bapp\x7d/$\x7b x y \x7d\n\x7d\x7d".toList =
    .error (.located 3 (.badPath "x y".toList)) := by
  decide +kernel

end Template

end SecretWeave
