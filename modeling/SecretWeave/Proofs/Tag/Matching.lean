import SecretWeave.Proofs.Tag.Closing

/-!
# Tags matched one inside the other

The closer of a tag can be told without a stack: a tag inside it is matched first, closer and all, and
the search goes on behind it (`matching?`). The search that keeps the closers still owed on a stack
finds the same closer. It is also taken here step by step, with what each step puts on the stack or
takes from it (`Search.step`). These steps come to an end, and with the same answer
(`closeAt?_matching`).
-/

namespace SecretWeave

namespace Brackets

/-! ## 1. Matching by recursion -/

/-- How far it is to the closer of a tag, where the tags inside it are matched by themselves. What can
be seen at a place counts in this order: an escaped opener, the closer, another opener. -/
def matching? (bs : Brackets) (owed : Text) : Text → Option Nat
  | [] => none
  | c :: r =>
    match escaped? bs (c :: r) with
    | some b => (matching? bs owed (r.drop b.opener.length)).map (· + (1 + b.opener.length))
    | none =>
      if owed.isPrefixOf (c :: r) then some 0
      else
        match opener? bs (c :: r) with
        | some b =>
          match matching? bs b.closer ((c :: r).drop b.opener.length) with
          | none => none
          | some i =>
            (matching? bs owed ((c :: r).drop (b.opener.length + i + b.closer.length))).map
              (· + (b.opener.length + i + b.closer.length))
        | none => (matching? bs owed r).map (· + 1)
termination_by s => s.length
decreasing_by
  · simp only [List.length_drop, List.length_cons]; omega
  · have := b.length_opener_pos
    simp only [List.length_drop, List.length_cons]; omega
  · have := b.length_opener_pos
    simp only [List.length_drop, List.length_cons]; omega
  · simp

/-- Where the stack holds a single closer, it finds what the recursion finds: the closers it holds in
between are those of the tags that are being matched. -/
theorem closeAt?_eq_matching? (bs : Brackets) (owed s : Text) :
    closeAt? bs owed [] s = matching? bs owed s := by
  fun_induction matching? bs owed s with
  | case1 => exact closeAt?_nil bs _ []
  | case2 owed c r b he ih => rw [closeAt?_escaped he, ih]
  | case3 owed c r he ho => exact closeAt?_last he ho
  | case4 owed c r he ho b hb hnone ih =>
    rw [closeAt?_opener he ho hb, closeAt?_cons, ih, hnone]
    rfl
  | case5 owed c r he ho b hb i hi ih ih' =>
    -- the tag that opens here is closed first, and the search goes on behind its closer
    rw [closeAt?_opener he ho hb, closeAt?_cons, ih, hi, Option.bind_some, Option.map_map,
      List.drop_drop, ← Nat.add_assoc, ih']
    congr 1
    funext k
    simp only [Function.comp]
    omega
  | case6 owed c r he ho hb ih => rw [closeAt?_char he ho hb, ih]

/-- Where a tag closes its closer stands, and no escaped opener. -/
theorem closes_of_matching? {bs : Brackets} {owed s : Text} {n : Nat}
    (h : matching? bs owed s = some n) :
    ∃ c r, s.drop n = c :: r ∧ escaped? bs (c :: r) = none ∧ owed.isPrefixOf (c :: r) = true := by
  -- what is stepped over moves the place and nothing else
  fun_induction matching? bs owed s generalizing n with
  | case1 => cases h
  | case2 owed c r b he ih =>
    obtain ⟨k, hk, rfl⟩ := Option.map_eq_some_iff.1 h
    rw [Nat.add_comm, ← List.drop_drop, drop_mark]
    exact ih hk
  | case3 owed c r he ho =>
    obtain rfl := Option.some.inj h
    exact ⟨c, r, rfl, he, ho⟩
  | case4 => cases h
  | case5 owed c r he ho b hb i hi _ ih =>
    obtain ⟨k, hk, rfl⟩ := Option.map_eq_some_iff.1 h
    rw [Nat.add_comm, ← List.drop_drop]
    exact ih hk
  | case6 owed c r he ho hb ih =>
    obtain ⟨k, hk, rfl⟩ := Option.map_eq_some_iff.1 h
    rw [List.drop_succ_cons]
    exact ih hk

end Brackets

/-! ## 2. The search step by step -/

/-- Where the search for a closer stands in a text: the place it looks at, and the closers that are
owed, the innermost first. -/
structure Search where
  place : Nat
  owed : List Text

namespace Search

/-- A change of the stack: a closer is owed because a tag opens, or no longer as the tag closes. -/
inductive Move where
  | push (bracket : Bracket) (place : Nat)
  | pop (closer : Text) (place : Nat)

/-- What a step of the search comes to: its end with an answer, or where it goes on and how that
changed the stack. -/
inductive Step where
  | stop (answer : Option Nat)
  | go (next : Search) (move : Option Move)

def step (bs : Brackets) (s : Text) : Search → Step
  | ⟨_, []⟩ => .stop none
  | ⟨place, owed :: outer⟩ =>
    match s.drop place with
    | [] => .stop none
    | c :: r =>
      match bs.escaped? (c :: r) with
      | some b => .go ⟨place + (1 + b.opener.length), owed :: outer⟩ none
      | none =>
        if owed.isPrefixOf (c :: r) then
          match outer with
          | [] => .stop (some place)
          | next :: rest => .go ⟨place + owed.length, next :: rest⟩ (some (.pop owed place))
        else
          match bs.opener? (c :: r) with
          | some b =>
            .go ⟨place + b.opener.length, b.closer :: owed :: outer⟩ (some (.push b place))
          | none => .go ⟨place + 1, owed :: outer⟩ none

inductive Ends (bs : Brackets) (s : Text) : Search → List Move → Option Nat → Prop
  | stop {here : Search} {answer : Option Nat} (h : step bs s here = .stop answer) :
      Ends bs s here [] answer
  | go {here next : Search} {move : Option Move} {moves : List Move} {answer : Option Nat}
      (h : step bs s here = .go next move) (rest : Ends bs s next moves answer) :
      Ends bs s here (move.toList ++ moves) answer

variable {bs : Brackets} {s owed : Text} {outer : List Text} {place : Nat} {b : Bracket} {c : Char}
  {r : Text}

theorem step_nil (hs : s.drop place = []) : step bs s ⟨place, owed :: outer⟩ = .stop none := by
  simp only [step, hs]

theorem step_escaped (hs : s.drop place = c :: r) (he : bs.escaped? (c :: r) = some b) :
    step bs s ⟨place, owed :: outer⟩ =
      .go ⟨place + (1 + b.opener.length), owed :: outer⟩ none := by
  simp only [step, hs, he]

theorem step_last (hs : s.drop place = c :: r) (he : bs.escaped? (c :: r) = none)
    (ho : owed.isPrefixOf (c :: r) = true) :
    step bs s ⟨place, [owed]⟩ = .stop (some place) := by
  simp only [step, hs, he, ho, if_true]

theorem step_next (hs : s.drop place = c :: r) (he : bs.escaped? (c :: r) = none)
    (ho : owed.isPrefixOf (c :: r) = true) (next : Text) :
    step bs s ⟨place, owed :: next :: outer⟩ =
      .go ⟨place + owed.length, next :: outer⟩ (some (.pop owed place)) := by
  simp only [step, hs, he, ho, if_true]

theorem step_opener (hs : s.drop place = c :: r) (he : bs.escaped? (c :: r) = none)
    (ho : ¬ owed.isPrefixOf (c :: r) = true) (hb : bs.opener? (c :: r) = some b) :
    step bs s ⟨place, owed :: outer⟩ =
      .go ⟨place + b.opener.length, b.closer :: owed :: outer⟩ (some (.push b place)) := by
  simp only [step, hs, he, ho, hb, if_false, Bool.false_eq_true]

theorem step_char (hs : s.drop place = c :: r) (he : bs.escaped? (c :: r) = none)
    (ho : ¬ owed.isPrefixOf (c :: r) = true) (hb : bs.opener? (c :: r) = none) :
    step bs s ⟨place, owed :: outer⟩ = .go ⟨place + 1, owed :: outer⟩ none := by
  simp only [step, hs, he, ho, hb, if_false, Bool.false_eq_true]

/-- A step depends on where the search stands only, and so does all that comes after it. -/
theorem Ends.unique {here : Search} {moves moves' : List Move} {answer answer' : Option Nat}
    (h : Ends bs s here moves answer) (h' : Ends bs s here moves' answer') :
    moves = moves' ∧ answer = answer' := by
  induction h generalizing moves' with
  | stop h =>
    cases h' with
    | stop h' => exact ⟨rfl, Step.stop.inj (h.symm.trans h')⟩
    | go h' => cases h.symm.trans h'
  | go h _ ih =>
    cases h' with
    | stop h' => cases h.symm.trans h'
    | go h' rest' =>
      obtain ⟨rfl, rfl⟩ := Step.go.inj (h.symm.trans h')
      obtain ⟨rfl, rfl⟩ := ih rest'
      exact ⟨rfl, rfl⟩

theorem drop_add_of_drop {t : Text} (hs : s.drop place = t) (n : Nat) :
    s.drop (place + n) = t.drop n := by
  rw [← List.drop_drop, hs]

theorem map_add_map (x : Option Nat) (place n : Nat) :
    (x.map (· + n)).map (place + ·) = x.map (place + n + ·) := by
  rw [Option.map_map]
  congr 1
  funext k
  simp only [Function.comp]
  omega

/-- From wherever it stands, the search ends, and with the closer that the stack finds. -/
theorem ends_closeAt? (bs : Brackets) (s : Text) (place : Nat) (owed : Text) (outer : List Text) :
    ∃ moves, Ends bs s ⟨place, owed :: outer⟩ moves
      ((bs.closeAt? owed outer (s.drop place)).map (place + ·)) := by
  -- one step of the search for each call of the function
  generalize hs : s.drop place = t
  fun_induction Brackets.closeAt? bs owed outer t generalizing place with
  | case1 owed outer => exact ⟨[], .stop (step_nil hs)⟩
  | case2 owed outer c r b he ih =>
    have hnext : s.drop (place + (1 + b.opener.length)) = r.drop b.opener.length := by
      rw [drop_add_of_drop hs, Brackets.drop_mark]
    obtain ⟨moves, h⟩ := ih _ hnext
    rw [map_add_map]
    exact ⟨_, .go (step_escaped hs he) h⟩
  | case3 owed c r he ho => exact ⟨[], .stop (step_last hs he ho)⟩
  | case4 owed c r he ho next rest ih =>
    obtain ⟨moves, h⟩ := ih _ (drop_add_of_drop hs _)
    rw [map_add_map]
    exact ⟨_, .go (step_next hs he ho next) h⟩
  | case5 owed outer c r he ho b hb ih =>
    obtain ⟨moves, h⟩ := ih _ (drop_add_of_drop hs _)
    rw [map_add_map]
    exact ⟨_, .go (step_opener hs he ho hb) h⟩
  | case6 owed outer c r he ho hb ih =>
    obtain ⟨moves, h⟩ := ih _ (drop_add_of_drop hs 1)
    rw [map_add_map]
    exact ⟨_, .go (step_char hs he ho hb) h⟩

end Search

/-- The search for the closer of a tag comes to an end, wherever the content of the tag starts, and
finds the place that matching by recursion gives. -/
theorem closeAt?_matching (bs : Brackets) (s : Text) (start : Nat) (owed : Text) :
    bs.closeAt? owed [] (s.drop start) = bs.matching? owed (s.drop start) ∧
      ∀ answer, (∃ moves, Search.Ends bs s ⟨start, [owed]⟩ moves answer) ↔
        answer = (bs.matching? owed (s.drop start)).map (start + ·) := by
  have hfound := bs.closeAt?_eq_matching? owed (s.drop start)
  obtain ⟨moves, hends⟩ := Search.ends_closeAt? bs s start owed []
  rw [hfound] at hends
  refine ⟨hfound, fun answer => ⟨?_, ?_⟩⟩
  · rintro ⟨moves', h⟩
    exact (h.unique hends).2
  · rintro rfl
    exact ⟨moves, hends⟩

end SecretWeave
