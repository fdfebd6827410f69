import SecretWeave.Piece
import SecretWeave.Proofs.Tag.Closing
import SecretWeave.Version

/-!
# What a text is cut into

The pieces of a text are consecutive parts of it, and what is left over starts with the tag that is
never closed (`cut_rest`). What stands inside a closed tag can be cut to its end, also without the
blanks around it (`fault_inner`): no tag is left open inside a tag that is closed.
-/

namespace SecretWeave.Brackets

variable {bs : Brackets} {b : Bracket}

/-! ## 1. Pieces and what is left -/

/-- A literal run and what follows it are the text. -/
theorem raw_run_append (bs : Brackets) (s : Text) :
    (run bs s).raw ++ s.drop (run bs s).raw.length = s := by
  fun_induction run bs s with
  | case1 => rfl
  | case2 c r b he rest ih =>
    obtain ⟨-, t, ht⟩ := escaped?_eq_some he
    obtain ⟨rfl, rfl⟩ : c = escapeMark ∧ r = b.opener ++ t := by simpa using ht
    rw [List.drop_left] at ih
    simp only [rest, List.cons_append, List.append_assoc, List.length_cons, List.length_append,
      List.drop_succ_cons, List.drop_length_add_append, List.drop_left, ih]
  | case3 => rfl
  | case4 c r he ho rest ih =>
    simp only [rest, List.cons_append, List.length_cons, List.drop_succ_cons, ih]

/-- The pieces of a text are its consecutive parts. Either they make up all of it, or what is left
starts with a tag that has no closer, and that tag is what the fault is about. -/
theorem cut_rest (bs : Brackets) (line : Nat) (s : Text) :
    ∃ rest, s = (cut bs line s).pieces.flatMap Piece.raw ++ rest ∧
      ((cut bs line s).fault = none ∧ rest = [] ∨
        ∃ b, opener? bs rest = some b ∧ closer? bs b (rest.drop b.opener.length) = none ∧
          (cut bs line s).fault = some ((Fault.unclosedTag b.closer).atLine
            (line + Text.newlines ((cut bs line s).pieces.flatMap Piece.raw)))) := by
  fun_induction cut bs line s with
  | case1 => exact ⟨[], rfl, .inl ⟨rfl, rfl⟩⟩
  | case2 line c r b hb body hn =>
    exact ⟨c :: r, rfl, .inr ⟨b, hb, hn, by simp⟩⟩
  | case3 line c r b hb body n hn size raw rest ih =>
    obtain ⟨left, hleft, hend⟩ := ih
    refine ⟨left, ?_, ?_⟩
    · simp only [rest, List.flatMap_cons, Piece.raw, List.append_assoc, ← hleft, raw]
      exact (List.take_append_drop size (c :: r)).symm
    · simpa only [rest, raw, List.flatMap_cons, Piece.raw, Text.newlines_append, Nat.add_assoc]
        using hend
  | case4 line c r ho here rest ih =>
    obtain ⟨left, hleft, hend⟩ := ih
    refine ⟨left, ?_, ?_⟩
    · simp only [rest, List.flatMap_cons, Piece.raw, List.append_assoc, ← hleft, here]
      exact (raw_run_append bs (c :: r)).symm
    · simpa only [rest, here, List.flatMap_cons, Piece.raw, Text.newlines_append, Nat.add_assoc]
        using hend

/-- A text that starts with a whole tag is cut behind it. -/
theorem cut_tag {s : Text} {n size : Nat} (hb : opener? bs s = some b)
    (hn : closer? bs b (s.drop b.opener.length) = some n)
    (hsize : b.opener.length + n + b.closer.length = size) (line : Nat) :
    cut bs line s =
      ⟨.tag b ((s.drop b.opener.length).take n) (s.take size) line ::
          (cut bs (line + Text.newlines (s.take size)) (s.drop size)).pieces,
        (cut bs (line + Text.newlines (s.take size)) (s.drop size)).fault⟩ := by
  subst hsize
  cases s with
  | nil => simp at hb
  | cons c r =>
    rw [cut.eq_def]
    dsimp only
    split
    · rename_i b' hb'
      obtain rfl := Option.some.inj (hb.symm.trans hb')
      rw [hn]
    · rename_i hb'
      rw [hb'] at hb
      cases hb

/-- Every tag among the pieces was found at an opener, up to its closer. -/
theorem tag_of_mem_cut {line l : Nat} {s content raw : Text}
    (h : Piece.tag b content raw l ∈ (cut bs line s).pieces) :
    ∃ c r n, opener? bs (c :: r) = some b ∧
      closer? bs b ((c :: r).drop b.opener.length) = some n ∧
      content = ((c :: r).drop b.opener.length).take n ∧
      raw = (c :: r).take (b.opener.length + n + b.closer.length) := by
  fun_induction cut bs line s with
  | case1 => simp at h
  | case2 => simp at h
  | case3 line c r b' hb body n hn size raw' rest ih =>
    rcases List.mem_cons.1 h with h | h
    · obtain ⟨rfl, rfl, rfl, rfl⟩ := Piece.tag.inj h
      exact ⟨c, r, n, hb, hn, rfl, rfl⟩
    · exact ih h
  | case4 line c r ho here rest ih =>
    rcases List.mem_cons.1 h with h | h
    · cases h
    · exact ih h

/-! ## 2. Tables without surprises -/

theorem exists_opener_eq_cons {c : Char} {r : Text} (hb : opener? bs (c :: r) = some b) :
    ∃ o, b.opener = c :: o := by
  obtain ⟨-, t, ht⟩ := opener?_eq_some hb
  cases ho : b.opener with
  | nil => exact absurd ho b.opener_ne_nil
  | cons d o =>
    rw [ho, List.cons_append] at ht
    exact ⟨o, by rw [(List.cons.inj ht).1]⟩

/-- A table of brackets in which nothing is mistaken for something else at the ends of a text: no
blanks anywhere, no escape mark in an opener, and no empty closer. -/
structure Tidy (bs : Brackets) : Prop where
  opener_solid : ∀ b ∈ bs, ∀ c ∈ b.opener, Text.isBlank c = false
  opener_unmarked : ∀ b ∈ bs, escapeMark ∉ b.opener
  closer_solid : ∀ b ∈ bs, ∀ c ∈ b.closer, Text.isBlank c = false
  closer_ne_nil : ∀ b ∈ bs, b.closer ≠ []

theorem isBlank_of_mem_brackets (v : Version) {b : Bracket} (hb : b ∈ v.brackets) :
    ∀ c ∈ b.opener ++ b.closer, Text.isBlank c = false := by
  have hall : v.brackets.all
      (fun b => (b.opener ++ b.closer).all fun c => !Text.isBlank c) = true := by
    cases v <;> decide
  intro c hc
  simpa using List.all_eq_true.1 (List.all_eq_true.1 hall b hb) c hc

theorem tidy_brackets (v : Version) : Tidy v.brackets where
  opener_solid b hb c hc := isBlank_of_mem_brackets v hb c (List.mem_append_left _ hc)
  opener_unmarked := by cases v <;> decide
  closer_solid b hb c hc := isBlank_of_mem_brackets v hb c (List.mem_append_right _ hc)
  closer_ne_nil := by cases v <;> decide

namespace Tidy

variable (ht : Tidy bs)

include ht

theorem length_closer_pos {s : Text} (hb : opener? bs s = some b) : 0 < b.closer.length :=
  List.length_pos_iff.2 (ht.closer_ne_nil b (opener?_eq_some hb).1)

theorem escaped?_eq_none {s : Text} (hb : opener? bs s = some b) : escaped? bs s = none := by
  cases s with
  | nil => rfl
  | cons c r =>
    obtain ⟨o, ho⟩ := exists_opener_eq_cons hb
    have hc : c ≠ escapeMark := by
      rintro rfl
      exact ht.opener_unmarked b (opener?_eq_some hb).1 (by simp [ho])
    rw [escaped?_cons, if_neg hc]

theorem opener?_mark (r : Text) : opener? bs (escapeMark :: r) = none := by
  cases hb : opener? bs (escapeMark :: r) with
  | none => rfl
  | some b =>
    obtain ⟨o, ho⟩ := exists_opener_eq_cons hb
    exact absurd (by simp [ho]) (ht.opener_unmarked b (opener?_eq_some hb).1)

theorem opener?_of_blank {c : Char} (hc : Text.isBlank c = true) (r : Text) :
    opener? bs (c :: r) = none := by
  cases hb : opener? bs (c :: r) with
  | none => rfl
  | some b =>
    obtain ⟨o, ho⟩ := exists_opener_eq_cons hb
    have hsolid := ht.opener_solid b (opener?_eq_some hb).1 c (by simp [ho])
    rw [hc] at hsolid
    cases hsolid

end Tidy

theorem escaped?_of_blank (bs : Brackets) {c : Char} (hc : Text.isBlank c = true) (r : Text) :
    escaped? bs (c :: r) = none := by
  have hne : c ≠ escapeMark := by
    rintro rfl
    exact absurd hc (by decide)
  rw [escaped?_cons, if_neg hne]

/-! ## 3. Texts that leave no tag open -/

/-- A text all of whose tags are closed, read step by step: an escaped opener, a tag that is closed
or any other character, and what follows. -/
inductive Balanced (bs : Brackets) : Text → Prop
  | nil : Balanced bs []
  | escaped {s : Text} {b : Bracket} (he : escaped? bs s = some b)
      (rest : Balanced bs (s.drop (1 + b.opener.length))) : Balanced bs s
  | tag {s : Text} {b : Bracket} {n : Nat} (hb : opener? bs s = some b)
      (hn : closer? bs b (s.drop b.opener.length) = some n)
      (rest : Balanced bs (s.drop (b.opener.length + n + b.closer.length))) : Balanced bs s
  | char {c : Char} {r : Text} (he : escaped? bs (c :: r) = none) (ho : opener? bs (c :: r) = none)
      (rest : Balanced bs r) : Balanced bs (c :: r)

theorem balanced_of_drop_run {s : Text} (h : Balanced bs (s.drop (run bs s).raw.length)) :
    Balanced bs s := by
  fun_induction run bs s with
  | case1 => exact h
  | case2 c r b he rest ih =>
    refine .escaped he ?_
    rw [drop_mark]
    apply ih
    rw [List.drop_drop]
    simpa only [rest, List.length_cons, List.length_append, List.cons_append,
      List.drop_succ_cons] using h
  | case3 => exact h
  | case4 c r he ho rest ih =>
    refine .char he ho (ih ?_)
    simpa only [rest, List.length_cons, List.drop_succ_cons] using h

/-- A text whose cutting has no fault is balanced. -/
theorem balanced_of_fault {line : Nat} {s : Text} (h : (cut bs line s).fault = none) :
    Balanced bs s := by
  fun_induction cut bs line s with
  | case1 => exact .nil
  | case2 => cases h
  | case3 line c r b hb body n hn size raw rest ih => exact .tag hb hn (ih h)
  | case4 line c r ho here rest ih => exact balanced_of_drop_run (ih h)

namespace Tidy

variable (ht : Tidy bs)

include ht

theorem balanced_drop_run {s : Text} (h : Balanced bs s) :
    Balanced bs (s.drop (run bs s).raw.length) := by
  fun_induction run bs s with
  | case1 => exact h
  | case2 c r b he rest ih =>
    cases h with
    | escaped he' hrest =>
      obtain rfl := Option.some.inj (he.symm.trans he')
      rw [drop_mark] at hrest
      have hdrop := ih hrest
      rw [List.drop_drop] at hdrop
      simpa only [rest, List.length_cons, List.length_append, List.cons_append,
        List.drop_succ_cons] using hdrop
    | tag hb => rw [ht.escaped?_eq_none hb] at he; cases he
    | char he' => rw [he'] at he; cases he
  | case3 => exact h
  | case4 c r he ho rest ih =>
    -- of the three ways to go on only that of a plain character fits
    cases h with
    | escaped he' => rw [he'] at he; cases he
    | tag hb => rw [hb] at ho; cases ho
    | char _ _ hrest =>
      simpa only [rest, List.length_cons, List.drop_succ_cons] using ih hrest

/-- Cutting a balanced text has no fault. -/
theorem fault_of_balanced {s : Text} (h : Balanced bs s) (line : Nat) :
    (cut bs line s).fault = none := by
  -- the rule that balances the text and the step that cuts it are chosen by its front
  fun_induction cut bs line s with
  | case1 => rfl
  | case2 line c r b hb body hn =>
    cases h with
    | escaped he => rw [ht.escaped?_eq_none hb] at he; cases he
    | tag hb' hn' =>
      obtain rfl := Option.some.inj (hb.symm.trans hb')
      rw [hn'] at hn
      cases hn
    | char _ ho => rw [ho] at hb; cases hb
  | case3 line c r b hb body n hn size raw rest ih =>
    cases h with
    | escaped he => rw [ht.escaped?_eq_none hb] at he; cases he
    | tag hb' hn' hrest =>
      obtain rfl := Option.some.inj (hb.symm.trans hb')
      obtain rfl := Option.some.inj (hn.symm.trans hn')
      exact ih hrest
    | char _ ho => rw [ho] at hb; cases hb
  | case4 line c r ho here rest ih => exact ih (ht.balanced_drop_run h)

theorem fault_eq_none_iff (line : Nat) {s : Text} :
    (cut bs line s).fault = none ↔ Balanced bs s :=
  ⟨balanced_of_fault, fun h => ht.fault_of_balanced h line⟩

/-- A closed tag is found in a text that is cut short behind it. An empty closer would need a
character more, which may be cut away. -/
theorem tag_take {s : Text} {n m : Nat} (hb : opener? bs s = some b)
    (hn : closer? bs b (s.drop b.opener.length) = some n)
    (hm : b.opener.length + n + b.closer.length ≤ m) :
    opener? bs (s.take m) = some b ∧
      closer? bs b ((s.take m).drop b.opener.length) = some n := by
  have hclose := ht.length_closer_pos hb
  refine ⟨opener?_take hb (by omega), ?_⟩
  rw [List.drop_take]
  exact closeAt?_take hn (by omega) (by rw [outermost]; omega)

/-- The text before the closer of a tag leaves no tag open. -/
theorem balanced_take {owed s : Text} {n : Nat} (h : closeAt? bs owed [] s = some n) :
    Balanced bs (s.take n) := by
  -- the tags inside are the ones the search pushes and pops again before it finds the closer
  induction hk : s.length using Nat.strongRecOn generalizing s n with
  | ind k ih =>
    cases s with
    | nil => simp at h
    | cons c r =>
      have hlen : ∀ j, 0 < j → ((c :: r).drop j).length < k := by
        intro j hj
        rw [← hk, List.length_drop, List.length_cons]
        omega
      cases he : escaped? bs (c :: r) with
      | some b =>
        rw [closeAt?_escaped he] at h
        obtain ⟨j, hj, rfl⟩ := Option.map_eq_some_iff.1 h
        rw [← drop_mark c] at hj
        refine .escaped (escaped?_take he (by omega)) ?_
        rw [List.drop_take, Nat.add_sub_cancel]
        exact ih _ (hlen _ (by omega)) hj rfl
      | none =>
        by_cases ho : owed.isPrefixOf (c :: r) = true
        · rw [closeAt?_last he ho] at h
          obtain rfl := Option.some.inj h
          exact .nil
        · cases hb : opener? bs (c :: r) with
          | some b =>
            have hopen := b.length_opener_pos
            obtain ⟨i, j, hi, hj, rfl⟩ := exists_of_closeAt?_opener he ho hb h
            obtain ⟨hb', hi'⟩ := ht.tag_take hb hi (Nat.le_add_right _ j)
            refine .tag hb' hi' ?_
            rw [List.drop_take, Nat.add_sub_cancel_left]
            exact ih _ (hlen _ (by omega)) hj rfl
          | none =>
            rw [closeAt?_char he ho hb] at h
            obtain ⟨j, hj, rfl⟩ := Option.map_eq_some_iff.1 h
            have he' := escaped?_take_eq_none he (j + 1)
            have hb' := opener?_take_eq_none hb (j + 1)
            rw [List.take_succ_cons] at he' hb' ⊢
            exact .char he' hb' (ih _ (hlen 1 (by omega)) hj rfl)

end Tidy

/-! ## 4. Blanks at the ends -/

theorem exists_trimEnd_append (s : Text) :
    ∃ trail, s = Text.trimEnd s ++ trail ∧ ∀ c ∈ trail, Text.isBlank c = true := by
  refine ⟨(s.reverse.takeWhile Text.isBlank).reverse, ?_, ?_⟩
  · rw [Text.trimEnd, ← List.reverse_append, List.takeWhile_append_dropWhile, List.reverse_reverse]
  · intro c hc
    exact List.all_eq_true.1 List.all_takeWhile c (List.mem_reverse.1 hc)

/-- A text without blanks that a text ending in blanks starts with does not reach into these. -/
theorem length_le_of_solid_prefix {p s trail : Text} (h : p <+: s ++ trail)
    (hp : ∀ c ∈ p, Text.isBlank c = false) (htrail : ∀ c ∈ trail, Text.isBlank c = true) :
    p.length ≤ s.length := by
  apply Nat.le_of_not_lt
  intro hlen
  have hs : s <+: p := List.prefix_of_prefix_length_le (List.prefix_append s trail) h (by omega)
  obtain ⟨q, rfl⟩ := hs
  have hq : q <+: trail := (List.prefix_append_right_inj s).1 h
  cases q with
  | nil => simp at hlen
  | cons c q =>
    have hblank := htrail c (hq.subset (by simp))
    rw [hp c (by simp)] at hblank
    cases hblank

namespace Tidy

variable (ht : Tidy bs)

include ht

/-- Blanks in front of a text do not matter for its balance. -/
theorem balanced_trimStart {s : Text} (h : Balanced bs s) : Balanced bs (Text.trimStart s) := by
  unfold Text.trimStart
  induction s with
  | nil => exact h
  | cons c r ih =>
    by_cases hc : Text.isBlank c = true
    · rw [List.dropWhile_cons_of_pos hc]
      cases h with
      | escaped he => rw [escaped?_of_blank bs hc] at he; cases he
      | tag hb => rw [ht.opener?_of_blank hc] at hb; cases hb
      | char _ _ hrest => exact ih hrest
    · rw [List.dropWhile_cons_of_neg hc]
      exact h

/-- The closer of a tag holds no blank, so it ends before the blanks at the end of a text. -/
theorem length_le_of_closer {s trail : Text} {n : Nat}
    (htrail : ∀ c ∈ trail, Text.isBlank c = true) (hb : opener? bs (s ++ trail) = some b)
    (hn : closer? bs b ((s ++ trail).drop b.opener.length) = some n) :
    b.opener.length + n + b.closer.length ≤ s.length := by
  have hsolid := ht.closer_solid b (opener?_eq_some hb).1
  have hpos := ht.length_closer_pos hb
  have hat : b.closer <+: ((s ++ trail).drop b.opener.length).drop n :=
    outermost_prefix_of_closeAt? hn
  rw [List.drop_drop] at hat
  by_cases hlt : b.opener.length + n ≤ s.length
  · rw [List.drop_append_of_le_length hlt] at hat
    have hle := length_le_of_solid_prefix hat hsolid htrail
    rw [List.length_drop] at hle
    omega
  · -- a closer among the blanks would have to be empty
    have hdrop : (s ++ trail).drop (b.opener.length + n) =
        [] ++ trail.drop (b.opener.length + n - s.length) := by
      rw [List.drop_append, List.drop_eq_nil_of_le (by omega)]
    rw [hdrop] at hat
    have hle := length_le_of_solid_prefix hat hsolid fun c hc =>
      htrail c (List.mem_of_mem_drop hc)
    rw [List.length_nil] at hle
    omega

/-- A closed tag is no longer than the text it starts. -/
theorem length_tag_le {s : Text} {n : Nat} (hb : opener? bs s = some b)
    (hn : closer? bs b (s.drop b.opener.length) = some n) :
    b.opener.length + n + b.closer.length ≤ s.length := by
  rw [← List.append_nil s] at hb hn
  exact ht.length_le_of_closer (by simp) hb hn

/-- Neither an escape mark nor the opener behind it reaches into the blanks at the end of a text. -/
theorem escaped?_of_append {s trail : Text} (htrail : ∀ c ∈ trail, Text.isBlank c = true)
    (he : escaped? bs (s ++ trail) = some b) :
    1 + b.opener.length ≤ s.length ∧ escaped? bs s = some b := by
  obtain ⟨hmem, t, hs⟩ := escaped?_eq_some he
  have hsolid : ∀ c ∈ escapeMark :: b.opener, Text.isBlank c = false := by
    intro c hc
    rcases List.mem_cons.1 hc with rfl | hc
    · decide
    · exact ht.opener_solid b hmem c hc
  have hlen : 1 + b.opener.length ≤ s.length := by
    have := length_le_of_solid_prefix ⟨t, hs.symm⟩ hsolid htrail
    simpa [Nat.add_comm] using this
  have he' := escaped?_take he hlen
  rw [List.take_left] at he'
  exact ⟨hlen, he'⟩

/-- A closed tag ends before the blanks at the end of a text. -/
theorem tag_of_append {s trail : Text} {n : Nat} (htrail : ∀ c ∈ trail, Text.isBlank c = true)
    (hb : opener? bs (s ++ trail) = some b)
    (hn : closer? bs b ((s ++ trail).drop b.opener.length) = some n) :
    b.opener.length + n + b.closer.length ≤ s.length ∧ opener? bs s = some b ∧
      closer? bs b (s.drop b.opener.length) = some n := by
  have hclose := ht.length_le_of_closer htrail hb hn
  have htag := ht.tag_take hb hn hclose
  rw [List.take_left] at htag
  exact ⟨hclose, htag⟩

/-- Blanks at the end of a text close nothing, so it is balanced without them. -/
theorem balanced_of_append {s trail : Text} (htrail : ∀ c ∈ trail, Text.isBlank c = true)
    (h : Balanced bs (s ++ trail)) : Balanced bs s := by
  generalize htext : s ++ trail = text at h
  induction h generalizing s with
  | nil =>
    rw [(List.append_eq_nil_iff.1 htext).1]
    exact .nil
  | @escaped text b he rest ih =>
    subst htext
    obtain ⟨hlen, he'⟩ := ht.escaped?_of_append htrail he
    exact .escaped he' (ih (List.drop_append_of_le_length hlen).symm)
  | @tag text b n hb hn rest ih =>
    subst htext
    obtain ⟨hlen, hb', hn'⟩ := ht.tag_of_append htrail hb hn
    exact .tag hb' hn' (ih (List.drop_append_of_le_length hlen).symm)
  | @char c r he ho rest ih =>
    cases s with
    -- the character is one of the blanks
    | nil => exact .nil
    | cons d s =>
      rw [← htext] at he ho
      obtain ⟨rfl, hr⟩ := List.cons.inj htext
      have he' := escaped?_take_eq_none he (d :: s).length
      have ho' := opener?_take_eq_none ho (d :: s).length
      rw [List.take_left] at he' ho'
      exact .char he' ho' (ih hr)

theorem balanced_trim {s : Text} (h : Balanced bs s) : Balanced bs (Text.trim s) := by
  obtain ⟨trail, htrim, htrail⟩ := exists_trimEnd_append (Text.trimStart s)
  have hstart := ht.balanced_trimStart h
  rw [htrim] at hstart
  exact ht.balanced_of_append htrail hstart

/-- What a closed tag holds is cut to its end: no tag inside it is left open. -/
theorem fault_inner {line l : Nat} {s content raw : Text}
    (h : Piece.tag b content raw l ∈ (cut bs line s).pieces) :
    (Pieces.ofText bs (Text.trim content)).fault = none := by
  obtain ⟨c, r, n, -, hn, rfl, -⟩ := tag_of_mem_cut h
  exact ht.fault_of_balanced (ht.balanced_trim (ht.balanced_take hn)) 1

/-- A closed tag, taken by itself, is cut into just this tag. -/
theorem ofText_raw {line l : Nat} {s content raw : Text}
    (h : Piece.tag b content raw l ∈ (cut bs line s).pieces) :
    Pieces.ofText bs raw = ⟨[.tag b content raw 1], none⟩ := by
  obtain ⟨c, r, n, hb, hn, rfl, rfl⟩ := tag_of_mem_cut h
  generalize hsize : b.opener.length + n + b.closer.length = size
  obtain ⟨hb', hn'⟩ := ht.tag_take hb hn (Nat.le_of_eq hsize)
  have hcontent : (((c :: r).take size).drop b.opener.length).take n =
      ((c :: r).drop b.opener.length).take n := by
    rw [List.drop_take, List.take_take, Nat.min_eq_left (by omega)]
  have hend : ((c :: r).take size).drop size = [] := List.drop_eq_nil_of_le (List.length_take_le ..)
  rw [Pieces.ofText, cut_tag hb' hn' hsize, hend, hcontent, List.take_take, Nat.min_self, cut]

end Tidy

end SecretWeave.Brackets
