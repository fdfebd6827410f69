import SecretWeave.Bracket

/-!
# Where a tag closes

The closer of a tag is found with a stack of closers that are still owed. Here the stack is taken
apart: the innermost tag is closed first and the rest of the stack goes on behind it
(`closeAt?_append`). What is found depends on the text up to the closer only (`closeAt?_take`).
-/

namespace SecretWeave.Brackets

variable {bs : Brackets} {b : Bracket} {s : Text} {m : Nat}

/-! ## 1. Texts cut short -/

theorem isPrefixOf_take {p : Text} (h : p.isPrefixOf s = true) (hm : p.length ≤ m) :
    p.isPrefixOf (s.take m) = true := by
  rw [List.isPrefixOf_iff_prefix] at h ⊢
  exact List.prefix_take_iff.2 ⟨h, hm⟩

theorem isPrefixOf_of_take {p : Text} (h : p.isPrefixOf (s.take m) = true) :
    p.isPrefixOf s = true := by
  rw [List.isPrefixOf_iff_prefix] at h ⊢
  exact h.trans (List.take_prefix m s)

/-- A shorter text has the same opener, as long as it holds the opener. -/
theorem opener?_take (h : opener? bs s = some b) (hm : b.opener.length ≤ m) :
    opener? bs (s.take m) = some b := by
  unfold opener? at h ⊢
  rw [List.find?_eq_some_iff_append] at h ⊢
  obtain ⟨hb, before, after, rfl, hbefore⟩ := h
  refine ⟨isPrefixOf_take hb hm, before, after, rfl, fun a ha => ?_⟩
  have hna : a.opener.isPrefixOf s = false := by simpa using hbefore a ha
  rw [Bool.not_eq_true', Bool.eq_false_iff]
  intro ht
  rw [isPrefixOf_of_take ht] at hna
  cases hna

theorem opener?_take_eq_none (h : opener? bs s = none) (m : Nat) :
    opener? bs (s.take m) = none := by
  unfold opener? at h ⊢
  rw [List.find?_eq_none] at h ⊢
  intro a ha ht
  exact h a ha (isPrefixOf_of_take ht)

theorem escaped?_cons (bs : Brackets) (c : Char) (r : Text) :
    escaped? bs (c :: r) = if c = escapeMark then opener? bs r else none := rfl

/-- What stands behind an escape mark and the `n` characters that follow it. -/
theorem drop_mark (c : Char) (r : Text) (n : Nat) : (c :: r).drop (1 + n) = r.drop n := by
  rw [Nat.add_comm, List.drop_succ_cons]

theorem escaped?_take (h : escaped? bs s = some b) (hm : 1 + b.opener.length ≤ m) :
    escaped? bs (s.take m) = some b := by
  cases s with
  | nil => cases h
  | cons c r =>
    obtain ⟨m, rfl⟩ : ∃ k, m = k + 1 := ⟨m - 1, by omega⟩
    rw [escaped?_cons] at h
    rw [List.take_succ_cons, escaped?_cons]
    by_cases hc : c = escapeMark
    · rw [if_pos hc] at h ⊢
      exact opener?_take h (by omega)
    · rw [if_neg hc] at h
      cases h

theorem escaped?_take_eq_none (h : escaped? bs s = none) (m : Nat) :
    escaped? bs (s.take m) = none := by
  cases s with
  | nil => simp [escaped?]
  | cons c r =>
    cases m with
    | zero => rfl
    | succ m =>
      rw [escaped?_cons] at h
      rw [List.take_succ_cons, escaped?_cons]
      by_cases hc : c = escapeMark
      · rw [if_pos hc] at h ⊢
        exact opener?_take_eq_none h m
      · rw [if_neg hc]

/-! ## 2. Steps of the search -/

section Steps

variable {owed : Text} {outer : List Text} {c : Char} {r : Text}

theorem closeAt?_escaped (he : escaped? bs (c :: r) = some b) :
    closeAt? bs owed outer (c :: r) =
      (closeAt? bs owed outer (r.drop b.opener.length)).map (· + (1 + b.opener.length)) := by
  rw [closeAt?.eq_def]
  simp only [he]

theorem closeAt?_last (he : escaped? bs (c :: r) = none)
    (ho : owed.isPrefixOf (c :: r) = true) : closeAt? bs owed [] (c :: r) = some 0 := by
  rw [closeAt?.eq_def]
  simp only [he, ho, if_true]

theorem closeAt?_next (he : escaped? bs (c :: r) = none)
    (ho : owed.isPrefixOf (c :: r) = true) (next : Text) :
    closeAt? bs owed (next :: outer) (c :: r) =
      (closeAt? bs next outer ((c :: r).drop owed.length)).map (· + owed.length) := by
  rw [closeAt?.eq_def]
  simp only [he, ho, if_true]

theorem closeAt?_opener (he : escaped? bs (c :: r) = none)
    (ho : ¬ owed.isPrefixOf (c :: r) = true) (hb : opener? bs (c :: r) = some b) :
    closeAt? bs owed outer (c :: r) =
      (closeAt? bs b.closer (owed :: outer) ((c :: r).drop b.opener.length)).map
        (· + b.opener.length) := by
  rw [closeAt?.eq_def]
  simp only [he, ho, hb]
  rfl

theorem closeAt?_char (he : escaped? bs (c :: r) = none)
    (ho : ¬ owed.isPrefixOf (c :: r) = true) (hb : opener? bs (c :: r) = none) :
    closeAt? bs owed outer (c :: r) = (closeAt? bs owed outer r).map (· + 1) := by
  rw [closeAt?.eq_def]
  simp only [he, ho, hb]
  rfl

@[simp] theorem closeAt?_nil (bs : Brackets) (owed : Text) (outer : List Text) :
    closeAt? bs owed outer [] = none := by
  rw [closeAt?]

end Steps

/-! ## 3. The stack taken apart -/

def outermost : (owed : Text) → (outer : List Text) → Text
  | owed, [] => owed
  | _, next :: rest => outermost next rest

/-- Going on behind a closer, once counted from the start and once from a place `k` further on. -/
theorem bind_shift (x : Option Nat) (f : Text → Option Nat) (k l : Nat) (s : Text) :
    ((x.map (· + k)).bind fun i => (f (s.drop (i + l))).map (· + (i + l))) =
      (x.bind fun i => (f ((s.drop k).drop (i + l))).map (· + (i + l))).map (· + k) := by
  cases x with
  | none => rfl
  | some i =>
    have hdrop : (s.drop k).drop (i + l) = s.drop (i + k + l) := by
      rw [List.drop_drop]
      congr 1
      omega
    simp only [Option.map_some, Option.bind_some, hdrop, Option.map_map]
    congr 1
    funext j
    simp only [Function.comp]
    omega

/-- The tags on the upper part of a stack are closed first, and those below go on from there. -/
theorem closeAt?_append (bs : Brackets) (owed : Text) (outer : List Text) (next : Text)
    (rest : List Text) (s : Text) :
    closeAt? bs owed (outer ++ next :: rest) s =
      (closeAt? bs owed outer s).bind fun i =>
        (closeAt? bs next rest (s.drop (i + (outermost owed outer).length))).map
          (· + (i + (outermost owed outer).length)) := by
  fun_induction closeAt? bs owed outer s with
  | case1 owed outer => simp
  | case2 owed outer c r b he ih =>
    rw [closeAt?_escaped he, ih, ← drop_mark c]
    exact (bind_shift _ (closeAt? bs next rest) _ _ _).symm
  | case3 owed c r he ho =>
    -- here the upper part ends, and the search goes on for the closer below
    rw [List.nil_append, closeAt?_next he ho]
    simp [outermost]
  | case4 owed c r he ho next' rest' ih =>
    rw [List.cons_append, closeAt?_next he ho, ih]
    exact (bind_shift _ (closeAt? bs next rest) _ _ _).symm
  | case5 owed outer c r he ho b hb ih =>
    -- a tag that opens only adds to the upper part
    rw [closeAt?_opener he ho hb]
    rw [List.cons_append] at ih
    rw [ih]
    exact (bind_shift _ (closeAt? bs next rest) _ _ _).symm
  | case6 owed outer c r he ho hb ih =>
    rw [closeAt?_char he ho hb, ih]
    exact (bind_shift _ (closeAt? bs next rest) 1 _ (c :: r)).symm

/-- The innermost tag is closed as if it stood alone. -/
theorem closeAt?_cons (bs : Brackets) (owed next : Text) (s : Text) :
    closeAt? bs owed [next] s =
      (closeAt? bs owed [] s).bind fun i =>
        (closeAt? bs next [] (s.drop (i + owed.length))).map (· + (i + owed.length)) :=
  closeAt?_append bs owed [] next [] s

/-- A tag that opens on the way is closed before the search goes on behind it. -/
theorem exists_of_closeAt?_opener {c : Char} {r owed : Text} {b : Bracket} {n : Nat}
    (he : escaped? bs (c :: r) = none) (ho : ¬ owed.isPrefixOf (c :: r) = true)
    (hb : opener? bs (c :: r) = some b) (h : closeAt? bs owed [] (c :: r) = some n) :
    ∃ i j, closer? bs b ((c :: r).drop b.opener.length) = some i ∧
      closeAt? bs owed [] ((c :: r).drop (b.opener.length + i + b.closer.length)) = some j ∧
      n = b.opener.length + i + b.closer.length + j := by
  rw [closeAt?_opener he ho hb] at h
  obtain ⟨m, hm, rfl⟩ := Option.map_eq_some_iff.1 h
  rw [closeAt?_cons] at hm
  obtain ⟨i, hi, hm⟩ := Option.bind_eq_some_iff.1 hm
  obtain ⟨j, hj, rfl⟩ := Option.map_eq_some_iff.1 hm
  rw [List.drop_drop, ← Nat.add_assoc] at hj
  exact ⟨i, j, hi, hj, by omega⟩

/-! ## 4. What the search depends on -/

/-- At the place that a search finds stands the closer of the outermost tag. -/
theorem outermost_prefix_of_closeAt? {owed : Text} {outer : List Text} {n : Nat}
    (h : closeAt? bs owed outer s = some n) : outermost owed outer <+: s.drop n := by
  fun_induction closeAt? bs owed outer s generalizing n with
  | case1 => cases h
  | case2 owed outer c r b he ih =>
    obtain ⟨k, hk, rfl⟩ := Option.map_eq_some_iff.1 h
    rw [Nat.add_comm, ← List.drop_drop, drop_mark]
    exact ih hk
  | case3 owed c r he ho =>
    -- the search ends here, and only here
    obtain rfl := Option.some.inj h
    exact List.isPrefixOf_iff_prefix.1 ho
  | case4 owed c r he ho next rest ih =>
    obtain ⟨k, hk, rfl⟩ := Option.map_eq_some_iff.1 h
    rw [Nat.add_comm, ← List.drop_drop]
    exact ih hk
  | case5 owed outer c r he ho b hb ih =>
    obtain ⟨k, hk, rfl⟩ := Option.map_eq_some_iff.1 h
    rw [Nat.add_comm, ← List.drop_drop]
    exact ih hk
  | case6 owed outer c r he ho hb ih =>
    obtain ⟨k, hk, rfl⟩ := Option.map_eq_some_iff.1 h
    rw [List.drop_succ_cons]
    exact ih hk

/-- What stands behind the closer has no influence. The text may be cut short right behind it; an
empty closer needs one more character, as nothing closes at the end of a text. -/
theorem closeAt?_take {owed : Text} {outer : List Text} {n m : Nat}
    (h : closeAt? bs owed outer s = some n) (hn : n < m)
    (hm : n + (outermost owed outer).length ≤ m) :
    closeAt? bs owed outer (s.take m) = some n := by
  -- each step reads no further than it goes, so it is the same in the shorter text
  fun_induction closeAt? bs owed outer s generalizing n m with
  | case1 => cases h
  | case2 owed outer c r b he ih =>
    obtain ⟨k, hk, rfl⟩ := Option.map_eq_some_iff.1 h
    obtain ⟨m, rfl⟩ : ∃ j, m = j + 1 := ⟨m - 1, by omega⟩
    have he' := escaped?_take he (m := m + 1) (by omega)
    rw [List.take_succ_cons] at he' ⊢
    rw [closeAt?_escaped he', List.drop_take, ih hk (by omega) (by omega)]
    rfl
  | case3 owed c r he ho =>
    obtain rfl := Option.some.inj h
    obtain ⟨m, rfl⟩ : ∃ j, m = j + 1 := ⟨m - 1, by omega⟩
    have he' := escaped?_take_eq_none he (m + 1)
    have ho' := isPrefixOf_take ho (m := m + 1) (by simpa [outermost] using hm)
    rw [List.take_succ_cons] at he' ho' ⊢
    exact closeAt?_last he' ho'
  | case4 owed c r he ho next rest ih =>
    obtain ⟨k, hk, rfl⟩ := Option.map_eq_some_iff.1 h
    obtain ⟨m, rfl⟩ : ∃ j, m = j + 1 := ⟨m - 1, by omega⟩
    have he' := escaped?_take_eq_none he (m + 1)
    have ho' := isPrefixOf_take ho (m := m + 1) (by omega)
    have hdrop := List.drop_take (i := owed.length) (j := m + 1) (l := c :: r)
    have hlen : outermost owed (next :: rest) = outermost next rest := rfl
    rw [hlen] at hm
    rw [List.take_succ_cons] at he' ho' hdrop ⊢
    rw [closeAt?_next he' ho', hdrop, ih hk (by omega) (by omega)]
    rfl
  | case5 owed outer c r he ho b hb ih =>
    obtain ⟨k, hk, rfl⟩ := Option.map_eq_some_iff.1 h
    obtain ⟨m, rfl⟩ : ∃ j, m = j + 1 := ⟨m - 1, by omega⟩
    have he' := escaped?_take_eq_none he (m + 1)
    have ho' : ¬ owed.isPrefixOf ((c :: r).take (m + 1)) = true := fun h => ho (isPrefixOf_of_take h)
    have hb' := opener?_take hb (m := m + 1) (by omega)
    have hdrop := List.drop_take (i := b.opener.length) (j := m + 1) (l := c :: r)
    have hlen : outermost b.closer (owed :: outer) = outermost owed outer := rfl
    rw [← hlen] at hm
    rw [List.take_succ_cons] at he' ho' hb' hdrop ⊢
    rw [closeAt?_opener he' ho' hb', hdrop, ih hk (by omega) (by omega)]
    rfl
  | case6 owed outer c r he ho hb ih =>
    obtain ⟨k, hk, rfl⟩ := Option.map_eq_some_iff.1 h
    obtain ⟨m, rfl⟩ : ∃ j, m = j + 1 := ⟨m - 1, by omega⟩
    have he' := escaped?_take_eq_none he (m + 1)
    have ho' : ¬ owed.isPrefixOf ((c :: r).take (m + 1)) = true := fun h => ho (isPrefixOf_of_take h)
    have hb' := opener?_take_eq_none hb (m + 1)
    rw [List.take_succ_cons] at he' ho' hb' ⊢
    rw [closeAt?_char he' ho' hb', ih hk (by omega) (by omega)]
    rfl

end SecretWeave.Brackets
