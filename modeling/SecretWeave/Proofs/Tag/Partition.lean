import Mathlib.Data.List.Chain
import SecretWeave.Proofs.Tag.Cutting

/-!
# Pieces as a partition

The pieces of a text make it up again, and each says truly what it is: a tag has its brackets around
its content and stands on its line, a literal run is meant as it is written but for its escape marks
(`Partition`). They come one at a time, and after the last one nothing comes (`answers_eq`). Nothing
is asked of the brackets, which may begin with one another or close with what they open.
-/

namespace SecretWeave

def Piece.Apart : Piece → Piece → Prop
  | .literal _ _, .literal _ _ => False
  | _, _ => True

theorem Piece.apart_tag (p : Piece) (b : Bracket) (content raw : Text) (line : Nat) :
    p.Apart (.tag b content raw line) := by
  cases p <;> trivial

namespace Brackets

variable {bs : Brackets} {b : Bracket} {s : Text}

/-! ## 1. Escape marks -/

/-- How a literal run is meant: an escaped opener loses its mark, and every other character, at
which no opener starts, stays as it is. -/
inductive Unmarked (bs : Brackets) : (raw text : Text) → Prop
  | nil : Unmarked bs [] []
  | escaped {raw text : Text} {b : Bracket} (he : escaped? bs raw = some b)
      (rest : Unmarked bs (raw.drop (1 + b.opener.length)) text) :
      Unmarked bs raw (b.opener ++ text)
  | char {c : Char} {raw text : Text} (he : escaped? bs (c :: raw) = none)
      (ho : opener? bs (c :: raw) = none) (rest : Unmarked bs raw text) :
      Unmarked bs (c :: raw) (c :: text)

theorem prefix_raw_run (bs : Brackets) (s : Text) : (run bs s).raw <+: s :=
  ⟨_, raw_run_append bs s⟩

/-- The text of a run is what it takes without its escape marks. -/
theorem unmarked_run (bs : Brackets) (s : Text) : Unmarked bs (run bs s).raw (run bs s).text := by
  -- what is escaped, or no opener, in the text is so in the run, which holds all that was looked at
  fun_induction run bs s with
  | case1 => exact .nil
  | case2 c r b he rest ih =>
    obtain ⟨-, t, ht⟩ := escaped?_eq_some he
    obtain ⟨rfl, rfl⟩ : c = escapeMark ∧ r = b.opener ++ t := by simpa using ht
    rw [List.drop_left] at ih
    have hpre : escapeMark :: b.opener ++ rest.raw <+: escapeMark :: (b.opener ++ t) := by
      rw [List.cons_append, List.prefix_cons_inj, List.prefix_append_right_inj]
      simpa only [rest, List.drop_left] using prefix_raw_run bs t
    have he' := escaped?_take he (m := (escapeMark :: b.opener ++ rest.raw).length)
      (by simp only [List.length_append, List.length_cons]; omega)
    rw [← List.prefix_iff_eq_take.1 hpre] at he'
    refine .escaped he' ?_
    have hdrop : (escapeMark :: b.opener ++ rest.raw).drop (1 + b.opener.length) = rest.raw := by
      rw [Nat.add_comm, List.cons_append, List.drop_succ_cons, List.drop_left]
    rw [hdrop]
    simpa only [rest, List.drop_left] using ih
  | case3 => exact .nil
  | case4 c r he ho rest ih =>
    have hpre : c :: rest.raw <+: c :: r := by
      rw [List.prefix_cons_inj]
      exact prefix_raw_run bs r
    have he' := escaped?_take_eq_none he (c :: rest.raw).length
    have ho' := opener?_take_eq_none ho (c :: rest.raw).length
    rw [← List.prefix_iff_eq_take.1 hpre] at he' ho'
    exact .char he' ho' ih

/-! ## 2. Where a piece ends -/

theorem drop_cons_append (c : Char) (r p q : Text) :
    (c :: r).drop (c :: p ++ q).length = (r.drop p.length).drop q.length := by
  rw [List.drop_drop, List.cons_append, List.length_cons, List.length_append, List.drop_succ_cons]

/-- A literal run lasts to the end of the text or to the next opener. -/
theorem drop_run (bs : Brackets) (s : Text) :
    s.drop (run bs s).raw.length = [] ∨
      ∃ b, opener? bs (s.drop (run bs s).raw.length) = some b := by
  fun_induction run bs s with
  | case1 => exact .inl rfl
  | case2 c r b he rest ih =>
    rw [drop_cons_append]
    exact ih
  | case3 c r he b ho => exact .inr ⟨b, ho⟩
  | case4 c r he ho rest ih => exact ih

/-- A closed tag is its opener, its content and its closer. -/
theorem take_eq_of_closer? {n : Nat} (hb : opener? bs s = some b)
    (hn : closer? bs b (s.drop b.opener.length) = some n) :
    s.take (b.opener.length + n + b.closer.length) =
      b.opener ++ (s.drop b.opener.length).take n ++ b.closer := by
  obtain ⟨-, t, rfl⟩ := opener?_eq_some hb
  rw [List.drop_left] at hn ⊢
  have hclose : b.closer <+: t.drop n := outermost_prefix_of_closeAt? hn
  rw [Nat.add_assoc, List.take_length_add_append, List.take_add, List.append_assoc,
    ← List.prefix_iff_eq_take.1 hclose]

/-- A tag that is never closed ends the cutting with its fault. -/
theorem cut_open (hb : opener? bs s = some b)
    (hn : closer? bs b (s.drop b.opener.length) = none) (line : Nat) :
    cut bs line s = ⟨[], some ((Fault.unclosedTag b.closer).atLine line)⟩ := by
  cases s with
  | nil => simp at hb
  | cons c r =>
    rw [cut.eq_def]
    dsimp only
    split
    · rename_i b' hb'
      obtain rfl := Option.some.inj (hb.symm.trans hb')
      rw [hn]
    · rename_i hb'
      rw [hb'] at hb
      cases hb

/-- Where an opener stands, the next piece is a tag if there is one. -/
theorem apart_of_opener? (hb : opener? bs s = some b) (line : Nat) (q : Piece) :
    ∀ p ∈ (cut bs line s).pieces.head?, q.Apart p := by
  cases hn : closer? bs b (s.drop b.opener.length) with
  | none => simp [cut_open hb hn]
  | some n =>
    rw [cut_tag hb hn rfl]
    intro p hp
    obtain rfl := Option.some.inj hp
    exact q.apart_tag _ _ _ _

/-! ## 3. What holds of the pieces -/

/-- No piece is empty. -/
theorem raw_ne_nil_of_mem_cut {line : Nat} {p : Piece} (h : p ∈ (cut bs line s).pieces) :
    p.raw ≠ [] := by
  fun_induction cut bs line s with
  | case1 => simp at h
  | case2 => simp at h
  | case3 line c r b hb body n hn size raw rest ih =>
    rcases List.mem_cons.1 h with rfl | h
    · have hopen := b.length_opener_pos
      have hsize : size ≠ 0 := by omega
      simpa [Piece.raw, raw] using hsize
    · exact ih h
  | case4 line c r ho here rest ih =>
    rcases List.mem_cons.1 h with rfl | h
    · exact List.length_pos_iff.1 (length_run_raw_pos ho)
    · exact ih h

/-- Literal pieces are never neighbours. -/
theorem isChain_cut (bs : Brackets) (line : Nat) (s : Text) :
    (cut bs line s).pieces.IsChain Piece.Apart := by
  fun_induction cut bs line s with
  | case1 => exact .nil
  | case2 => exact .nil
  | case3 line c r b hb body n hn size raw rest ih =>
    rw [List.isChain_cons]
    refine ⟨fun p _ => ?_, ih⟩
    cases p <;> trivial
  | case4 line c r ho here rest ih =>
    rw [List.isChain_cons]
    refine ⟨?_, ih⟩
    -- behind the run there is nothing or an opener
    rcases drop_run bs (c :: r) with hend | ⟨b, hb⟩
    · simp only [rest, here, hend]
      simp [cut]
    · exact apart_of_opener? hb _ _

/-- A tag says what it was cut from: its brackets are around its content, and its line is counted
over all that stands before it. -/
theorem tag_of_cut {line l : Nat} {content raw : Text} {before after : List Piece}
    (h : (cut bs line s).pieces = before ++ .tag b content raw l :: after) :
    b ∈ bs ∧ raw = b.opener ++ content ++ b.closer ∧
      l = line + Text.newlines (before.flatMap Piece.raw) := by
  -- along the cutting: the tag is the first piece, or one of the rest
  fun_induction cut bs line s generalizing before with
  | case1 => simp at h
  | case2 => simp at h
  | case3 line c r b' hb body n hn size raw' rest =>
    rename_i ih
    cases before with
    | nil =>
      obtain ⟨hp, -⟩ := List.cons.inj h
      obtain ⟨rfl, rfl, rfl, rfl⟩ := Piece.tag.inj hp
      exact ⟨(opener?_eq_some hb).1, take_eq_of_closer? hb hn, rfl⟩
    | cons p before =>
      obtain ⟨rfl, hrest⟩ := List.cons.inj h
      obtain ⟨hmem, hraw, hline⟩ := ih hrest
      refine ⟨hmem, hraw, ?_⟩
      rw [hline, List.flatMap_cons, Text.newlines_append, Nat.add_assoc]
      rfl
  | case4 line c r ho here rest =>
    rename_i ih
    cases before with
    | nil => cases (List.cons.inj h).1
    | cons p before =>
      obtain ⟨rfl, hrest⟩ := List.cons.inj h
      obtain ⟨hmem, hraw, hline⟩ := ih hrest
      refine ⟨hmem, hraw, ?_⟩
      rw [hline, List.flatMap_cons, Text.newlines_append, Nat.add_assoc]
      rfl

/-- The text of a literal piece is what it takes without its escape marks. -/
theorem unmarked_of_mem_cut {line : Nat} {text raw : Text}
    (h : .literal text raw ∈ (cut bs line s).pieces) : Unmarked bs raw text := by
  fun_induction cut bs line s with
  | case1 => simp at h
  | case2 => simp at h
  | case3 line c r b hb body n hn size raw' rest ih =>
    rcases List.mem_cons.1 h with h | h
    · cases h
    · exact ih h
  | case4 line c r ho here rest ih =>
    rcases List.mem_cons.1 h with h | h
    · obtain ⟨rfl, rfl⟩ := Piece.literal.inj h
      exact unmarked_run bs (c :: r)
    · exact ih h

end Brackets

/-! ## 4. One piece at a time -/

/-- Where the cutting of a text stands: what is left of it, on which line that starts, and whether a
tag was found that is never closed. -/
structure Cutter where
  rest : Text
  line : Nat
  failed : Bool

namespace Cutter

variable (bs : Brackets)

def start (s : Text) : Cutter := ⟨s, 1, false⟩

/-- The next piece, or the fault that ends the cutting, and where the cutting stands after it. -/
def next? (c : Cutter) : Option (Except Fault Piece × Cutter) :=
  if c.failed ∨ c.rest = [] then none
  else
    match bs.opener? c.rest with
    | some b =>
      let body := c.rest.drop b.opener.length
      match bs.closer? b body with
      | none =>
        some (.error ((Fault.unclosedTag b.closer).atLine c.line), { c with failed := true })
      | some n =>
        let size := b.opener.length + n + b.closer.length
        let raw := c.rest.take size
        some (.ok (.tag b (body.take n) raw c.line),
          ⟨c.rest.drop size, c.line + Text.newlines raw, false⟩)
    | none =>
      let here := bs.run c.rest
      some (.ok (.literal here.text here.raw),
        ⟨c.rest.drop here.raw.length, c.line + Text.newlines here.raw, false⟩)

/-- What the next `n` questions for a piece are answered with, up to the first without an answer. -/
def answers : Nat → Cutter → List (Except Fault Piece)
  | 0, _ => []
  | n + 1, c =>
    match c.next? bs with
    | none => []
    | some (a, c) => a :: answers n c

variable {bs} {b : Bracket} {s : Text}

theorem next?_open (hb : bs.opener? s = some b)
    (hn : bs.closer? b (s.drop b.opener.length) = none) (line : Nat) :
    next? bs ⟨s, line, false⟩ =
      some (.error ((Fault.unclosedTag b.closer).atLine line), ⟨s, line, true⟩) := by
  cases s with
  | nil => simp at hb
  | cons c r => simp [next?, hb, hn]

theorem next?_tag {n size : Nat} (hb : bs.opener? s = some b)
    (hn : bs.closer? b (s.drop b.opener.length) = some n)
    (hsize : b.opener.length + n + b.closer.length = size) (line : Nat) :
    next? bs ⟨s, line, false⟩ =
      some (.ok (.tag b ((s.drop b.opener.length).take n) (s.take size) line),
        ⟨s.drop size, line + Text.newlines (s.take size), false⟩) := by
  subst hsize
  cases s with
  | nil => simp at hb
  | cons c r => simp [next?, hb, hn]

theorem next?_run {c : Char} {r : Text} (ho : bs.opener? (c :: r) = none) (line : Nat) :
    next? bs ⟨c :: r, line, false⟩ =
      some (.ok (.literal (bs.run (c :: r)).text (bs.run (c :: r)).raw),
        ⟨(c :: r).drop (bs.run (c :: r)).raw.length, line + Text.newlines (bs.run (c :: r)).raw,
          false⟩) := by
  simp [next?, ho]

theorem answers_failed (n : Nat) (rest : Text) (line : Nat) :
    answers bs n ⟨rest, line, true⟩ = [] := by
  cases n <;> rfl

variable (bs) in
/-- As many questions as there are characters are enough: they are answered with the pieces and then
with the fault if there is one, and further questions have no answer. -/
theorem answers_eq {n : Nat} (line : Nat) (s : Text) (hn : s.length ≤ n) :
    answers bs n ⟨s, line, false⟩ =
      (bs.cut line s).pieces.map .ok ++ (bs.cut line s).fault.toList.map .error := by
  -- one question for each piece, and no piece is empty
  fun_induction Brackets.cut bs line s generalizing n with
  | case1 => cases n <;> rfl
  | case2 line c r b hb body =>
    rename_i hclose
    obtain ⟨n, rfl⟩ : ∃ k, n = k + 1 := ⟨n - 1, by rw [List.length_cons] at hn; omega⟩
    rw [answers, next?_open hb hclose]
    simp [answers_failed]
  | case3 line c r b hb body k hclose size raw rest =>
    rename_i ih
    obtain ⟨n, rfl⟩ : ∃ k, n = k + 1 := ⟨n - 1, by rw [List.length_cons] at hn; omega⟩
    have hopen := b.length_opener_pos
    have hrest := ih (n := n) (by rw [List.length_drop]; omega)
    rw [answers, next?_tag hb hclose rfl]
    exact congrArg (_ :: ·) hrest
  | case4 line c r ho here rest =>
    rename_i ih
    obtain ⟨n, rfl⟩ : ∃ k, n = k + 1 := ⟨n - 1, by rw [List.length_cons] at hn; omega⟩
    have hpos : 0 < here.raw.length := Brackets.length_run_raw_pos ho
    have hrest := ih (n := n) (by rw [List.length_drop]; omega)
    rw [answers, next?_run ho]
    exact congrArg (_ :: ·) hrest

end Cutter

/-! ## 5. The partition -/

structure Partition (bs : Brackets) (s : Text) (ps : Pieces) : Prop where
  nonempty : ∀ p ∈ ps.pieces, p.raw ≠ []
  /-- Nothing is lost: the pieces are all of the text, or what they leave starts with the opener of
  a tag that is never closed, and the fault is about that tag, on its line. -/
  lossless : ∃ rest, s = ps.raw ++ rest ∧
    (ps.fault = none ∧ rest = [] ∨
      ∃ b ∈ bs, b.opener <+: rest ∧ bs.opener? rest = some b ∧
        bs.closer? b (rest.drop b.opener.length) = none ∧
        ps.fault = some (.located (1 + Text.newlines ps.raw) (.unclosedTag b.closer)))
  apart : ps.pieces.IsChain Piece.Apart
  /-- Tags are written with their brackets, on the lines where their openers stand. -/
  tags : ∀ before b content raw line after, ps.pieces = before ++ .tag b content raw line :: after →
    b ∈ bs ∧ raw = b.opener ++ content ++ b.closer ∧
      line = 1 + Text.newlines (before.flatMap Piece.raw)
  runs : ∀ text raw, .literal text raw ∈ ps.pieces → bs.Unmarked raw text

/-- The pieces of a text are a partition of it, whatever the brackets, and they come one after the
other: after as many questions as the text has characters all have come, a fault at most once and
last. -/
theorem ofText_partition (bs : Brackets) (s : Text) :
    Partition bs s (Pieces.ofText bs s) ∧
      ∀ n, s.length ≤ n → Cutter.answers bs n (Cutter.start s) =
        (Pieces.ofText bs s).pieces.map .ok ++ (Pieces.ofText bs s).fault.toList.map .error := by
  refine ⟨⟨?_, ?_, ?_, ?_, ?_⟩, ?_⟩
  · intro p hp
    exact Brackets.raw_ne_nil_of_mem_cut hp
  · obtain ⟨rest, hrest, hend⟩ := bs.cut_rest 1 s
    refine ⟨rest, hrest, ?_⟩
    rcases hend with hend | ⟨b, hb, hopen, hfault⟩
    · exact .inl hend
    · obtain ⟨hmem, t, ht⟩ := Brackets.opener?_eq_some hb
      exact .inr ⟨b, hmem, ⟨t, ht.symm⟩, hb, hopen, hfault⟩
  · exact bs.isChain_cut 1 s
  · intro before b content raw line after h
    exact Brackets.tag_of_cut h
  · intro text raw h
    exact Brackets.unmarked_of_mem_cut h
  · intro n hn
    exact Cutter.answers_eq bs 1 s hn

end SecretWeave
