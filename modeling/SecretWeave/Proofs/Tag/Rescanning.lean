import SecretWeave.Proofs.Tag.Matching
import SecretWeave.Proofs.Tag.Places

/-!
# Tags cut once more

While the closer of a tag is looked for, the tags inside it go onto the stack and off it again. Later
the content of the tag is cut from scratch, without the blanks around it and without what follows it.
Both see the same tags at the same places, one inside the other, to any depth, and no tag is left open
on the way (`rescan_moves`).
-/

namespace SecretWeave

/-! ## 1. Tags as changes of the stack -/

namespace TagTree

open Search (Move)

/-- What tags that stand one behind the other put onto the stack and take off it. -/
def moves : List TagTree → List Move
  | [] => []
  | .node b opened closed inside :: ts =>
    .push b opened :: (moves inside ++ .pop b.closer closed :: moves ts)

/-- The moves of a forest tell the forest. -/
theorem eq_of_moves_append {ts us : List TagTree} {l l' : List Move}
    (h : moves ts ++ l = moves us ++ l') (hl : ∀ b place, l.head? ≠ some (.push b place))
    (hl' : ∀ b place, l'.head? ≠ some (.push b place)) : ts = us ∧ l = l' := by
  match ts, us with
  | [], [] =>
    rw [moves, List.nil_append, List.nil_append] at h
    exact ⟨rfl, h⟩
  | [], .node b opened closed inside :: us =>
    rw [moves, moves, List.nil_append] at h
    exact absurd (congrArg List.head? h) (hl b opened)
  | .node b opened closed inside :: ts, [] =>
    rw [moves, moves, List.nil_append] at h
    exact absurd (congrArg List.head? h.symm) (hl' b opened)
  | .node b opened closed inside :: ts, .node b' opened' closed' inside' :: us =>
    rw [moves, moves] at h
    simp only [List.cons_append, List.append_assoc, List.cons.injEq, Move.push.injEq] at h
    obtain ⟨⟨rfl, rfl⟩, htail⟩ := h
    -- the tags inside are the same, as a closer stands behind them
    obtain ⟨rfl, hclosed⟩ := eq_of_moves_append htail (by simp) (by simp)
    simp only [List.cons.injEq, Move.pop.injEq, true_and] at hclosed
    obtain ⟨rfl, hrest⟩ := hclosed
    obtain ⟨rfl, rfl⟩ := eq_of_moves_append hrest hl hl'
    exact ⟨rfl, rfl⟩
termination_by sizeOf ts

/-- The changes of the stack tell which tags were seen. -/
theorem eq_of_moves {ts us : List TagTree} (h : moves ts = moves us) : ts = us := by
  have happend : moves ts ++ [] = moves us ++ [] := by rw [h]
  exact (eq_of_moves_append happend (by simp) (by simp)).1

end TagTree

/-! ## 2. The search inside a tag -/

namespace Search

variable {bs : Brackets} {s t owed : Text} {outer : List Text} {place n : Nat}
  {moves : List Move} {answer : Option Nat}

/-- On the way to the closer that is on top of the stack, the tags of the text up to this closer are
put onto the stack and taken off it, and then the search goes on from the closer. -/
theorem ends_of_matching? (ht : bs.Tidy) (hs : s.drop place = t) (hn : bs.matching? owed t = some n)
    (h : Ends bs s ⟨place + n, owed :: outer⟩ moves answer) :
    Ends bs s ⟨place, owed :: outer⟩ (TagTree.moves (bs.forest place (t.take n)) ++ moves)
      answer := by
  fun_induction Brackets.matching? bs owed t generalizing place n outer moves with
  | case1 => cases hn
  | case2 owed c r b he ih =>
    obtain ⟨k, hk, rfl⟩ := Option.map_eq_some_iff.1 hn
    have hnext : s.drop (place + (1 + b.opener.length)) = r.drop b.opener.length := by
      rw [drop_add_of_drop hs, Brackets.drop_mark]
    have hplace : place + (k + (1 + b.opener.length)) = place + (1 + b.opener.length) + k := by
      omega
    rw [hplace] at h
    rw [ht.forest_take_escaped he, Brackets.drop_mark]
    -- the stack does not change
    have hstep := Ends.go (step_escaped hs he) (ih hnext hk h)
    rwa [Option.toList_none, List.nil_append] at hstep
  | case3 owed c r he ho =>
    obtain rfl := Option.some.inj hn
    rw [List.take_zero, Brackets.forest_nil, TagTree.moves, List.nil_append]
    exact h
  | case4 => cases hn
  | case5 owed c r he ho b hb i hi ih ih' =>
    obtain ⟨k, hk, rfl⟩ := Option.map_eq_some_iff.1 hn
    have hclose : bs.closer? b ((c :: r).drop b.opener.length) = some i :=
      (bs.closeAt?_eq_matching? b.closer _).trans hi
    have hbody := drop_add_of_drop hs b.opener.length
    have hrest := drop_add_of_drop hs (b.opener.length + i + b.closer.length)
    -- the closer of the tag stands where its content ends, and is taken off the stack there
    obtain ⟨d, u, hat, hed, hod⟩ := Brackets.closes_of_matching? hi
    rw [← drop_add_of_drop hbody] at hat
    have hafter : place + b.opener.length + i + b.closer.length =
        place + (b.opener.length + i + b.closer.length) := by omega
    have hplace : place + (k + (b.opener.length + i + b.closer.length)) =
        place + (b.opener.length + i + b.closer.length) + k := by omega
    rw [hplace] at h
    have hpop : step bs s ⟨place + b.opener.length + i, b.closer :: owed :: outer⟩ =
        .go ⟨place + b.opener.length + i + b.closer.length, owed :: outer⟩
          (some (.pop b.closer (place + b.opener.length + i))) := step_next hat hed hod owed
    rw [hafter] at hpop
    have hclosed := Ends.go hpop (ih' hrest hk h)
    have hopened := Ends.go (step_opener hs he ho hb) (ih hbody hi hclosed)
    rw [ht.forest_take_tag hb hclose, TagTree.moves]
    simpa only [Option.toList_some, List.cons_append, List.nil_append, List.append_assoc]
      using hopened
  | case6 owed c r he ho hb ih =>
    obtain ⟨k, hk, rfl⟩ := Option.map_eq_some_iff.1 hn
    have hplace : place + (k + 1) = place + 1 + k := by omega
    rw [hplace] at h
    rw [ht.forest_take_char he hb]
    have hstep := Ends.go (step_char hs he ho hb) (ih (drop_add_of_drop hs 1) hk h)
    rwa [Option.toList_none, List.nil_append] at hstep

end Search

/-! ## 3. Cutting once more -/

namespace Brackets

variable {bs : Brackets} {t : PlacedTag} {s : Text} {place : Nat}

/-- The contents of a tag, of the tags inside it, and so on: what is cut from scratch. -/
inductive Within (bs : Brackets) (content : Text) : Text → Prop
  | self : Within bs content content
  | tag {outer inside raw : Text} {b : Bracket} {line : Nat} (h : Within bs content outer)
      (htag : .tag b inside raw line ∈ bs.inner outer) : Within bs content inside

/-- A tag of a text is closed where the search finds its closer. -/
theorem Tidy.closer?_of_mem_ofPieces (ht : Tidy bs) {line : Nat}
    (h : t ∈ PlacedTag.ofPieces place (bs.cut line s).pieces) :
    ∃ k, t.place = place + k ∧
      bs.closer? t.bracket (s.drop (k + t.bracket.opener.length)) = some t.content.length ∧
      t.content = (s.drop (k + t.bracket.opener.length)).take t.content.length := by
  fun_induction cut bs line s generalizing place with
  | case1 => cases h
  | case2 => cases h
  | case3 line c r b hb body n hn size raw rest =>
    rename_i ih
    have hlen := ht.length_tag_le hb hn
    -- the tag at the front, or one after it, found from where the first ends
    rcases List.mem_cons.1 h with rfl | h
    · have hcontent : (body.take n).length = n := by
        rw [List.length_take, List.length_drop]
        omega
      refine ⟨0, rfl, ?_⟩
      rw [Nat.zero_add, hcontent]
      exact ⟨hn, rfl⟩
    · obtain ⟨k, hk, hclose, hcontent⟩ := ih h
      have hraw : raw.length = size := List.length_take_of_le hlen
      rw [List.drop_drop, ← Nat.add_assoc] at hclose hcontent
      exact ⟨size + k, by omega, hclose, hcontent⟩
  | case4 line c r ho here rest =>
    rename_i ih
    obtain ⟨k, hk, hclose, hcontent⟩ := ih h
    rw [List.drop_drop, ← Nat.add_assoc] at hclose hcontent
    exact ⟨here.raw.length + k, by omega, hclose, hcontent⟩

end Brackets

/-- A tag of a text reaches to the closer that the search finds. No tag is left open where its content,
or that of a tag inside it, is cut from scratch without the blanks around it. And the tags that are
found there, each with those inside it, are the ones that the search put onto the stack and took off
it, and no others. -/
theorem rescan_moves (v : Version) {s : Text} {t : PlacedTag} (h : t ∈ v.brackets.tags 0 s) :
    v.brackets.closer? t.bracket (s.drop t.start) = some t.content.length ∧
    (∀ content, v.brackets.Within t.content content →
      (Pieces.ofText v.brackets (Text.trim content)).fault = none) ∧
    ∀ ts, Search.Ends v.brackets s ⟨t.start, [t.bracket.closer]⟩ (TagTree.moves ts) (some t.stop) ↔
      ts = v.brackets.forest t.solidStart (Text.trim t.content) := by
  have ht := Brackets.tidy_brackets v
  obtain ⟨raw, line, hpiece⟩ := PlacedTag.exists_piece_of_mem h
  obtain ⟨k, hk, hclose, hcontent⟩ := ht.closer?_of_mem_ofPieces h
  have hstart : k + t.bracket.opener.length = t.start := by
    unfold PlacedTag.start
    omega
  rw [hstart] at hclose hcontent
  -- the search ends at the closer of the tag, and up to there it sees the tags of the content
  have hfound : v.brackets.matching? t.bracket.closer (s.drop t.start) = some t.content.length :=
    (v.brackets.closeAt?_eq_matching? _ _).symm.trans hclose
  obtain ⟨c, r, hat, he, ho⟩ := Brackets.closes_of_matching? hfound
  rw [List.drop_drop] at hat
  have hstop := Search.Ends.stop (Search.step_last hat he ho)
  have hends := Search.ends_of_matching? ht rfl hfound hstop
  have hbal : v.brackets.Balanced t.content := by
    rw [hcontent]
    exact ht.balanced_take hclose
  rw [← hcontent, List.append_nil, ht.forest_trim hbal] at hends
  refine ⟨hclose, ?_, ?_⟩
  · intro content hwithin
    cases hwithin with
    | self => exact ht.fault_inner hpiece
    | tag _ htag => exact ht.fault_inner htag
  · intro ts
    constructor
    · intro hts
      exact TagTree.eq_of_moves (hts.unique hends).1
    · rintro rfl
      exact hends

/-- A reference in double braces on the third character of a text, with a tag inside it that holds a
tag itself. -/
def nestedTag : PlacedTag := ⟨.braces, 2, " a/$\x7b b/$\x7bc\x7d \x7d ".toList⟩

def nestedText : Text := "k=\x7b\x7b a/$\x7b b/$\x7bc\x7d \x7d \x7d\x7d".toList

/-- Two tags inside a tag. -/
theorem rescan_moves_nested :
    nestedTag ∈ Version.v2.brackets.tags 0 nestedText ∧
      Search.Ends Version.v2.brackets nestedText ⟨4, [['\x7d', '\x7d']]⟩
        [.push .dollar 7, .push .dollar 12, .pop ['\x7d'] 15, .pop ['\x7d'] 17] (some 19) := by
  have hmem : nestedTag ∈ Version.v2.brackets.tags 0 nestedText := by
    have htags : Version.v2.brackets.tags 0 nestedText = [nestedTag] := by with_unfolding_all rfl
    rw [htags]
    exact List.mem_singleton_self _
  have hforest : [TagTree.node .dollar 7 17 [.node .dollar 12 15 []]] =
      Version.v2.brackets.forest nestedTag.solidStart (Text.trim nestedTag.content) := by with_unfolding_all rfl
  have hends := ((rescan_moves .v2 hmem).2.2 _).2 hforest
  simp only [TagTree.moves] at hends
  exact ⟨hmem, hends⟩

end SecretWeave
