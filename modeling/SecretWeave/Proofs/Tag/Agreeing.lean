import SecretWeave.Proofs.Tag.Joining

/-!
# Tables that agree on a text

A text is cut by the openers that are found in it. Two tables of brackets that find the same openers
at every place of a text cut it, and everything inside it, into the same pieces
(`ofText_of_sameOpeners`).
-/

namespace SecretWeave.Brackets

variable {bs bs' : Brackets} {s t : Text}

def SameOpeners (bs bs' : Brackets) (s : Text) : Prop :=
  ∀ t, t <:+: s → opener? bs t = opener? bs' t

namespace SameOpeners

theorem here (h : SameOpeners bs bs' s) : opener? bs s = opener? bs' s :=
  h s List.infix_rfl

theorem of_isInfix (h : SameOpeners bs bs' s) (ht : t <:+: s) : SameOpeners bs bs' t :=
  fun u hu => h u (hu.trans ht)

theorem tail {c : Char} {r : Text} (h : SameOpeners bs bs' (c :: r)) : SameOpeners bs bs' r :=
  h.of_isInfix (List.suffix_cons c r).isInfix

theorem drop (h : SameOpeners bs bs' s) (n : Nat) : SameOpeners bs bs' (s.drop n) :=
  h.of_isInfix (List.drop_suffix n s).isInfix

theorem escaped? (h : SameOpeners bs bs' s) : bs.escaped? s = bs'.escaped? s := by
  cases s with
  | nil => rfl
  | cons c r => rw [escaped?_cons, escaped?_cons, h.tail.here]

end SameOpeners

/-! ## Cutting -/

/-- Tables that see the same openers in a text find the same closers in it. -/
theorem closeAt?_of_sameOpeners (owed : Text) (outer : List Text) (h : SameOpeners bs bs' s) :
    closeAt? bs owed outer s = closeAt? bs' owed outer s := by
  -- each step is the same for both tables and leads to a part of the text
  fun_induction closeAt? bs owed outer s with
  | case1 => rw [closeAt?_nil]
  | case2 owed outer c r b he ih =>
    rw [h.escaped?] at he
    rw [closeAt?_escaped he, ih (h.tail.drop _)]
  | case3 owed c r he ho =>
    rw [h.escaped?] at he
    rw [closeAt?_last he ho]
  | case4 owed c r he ho next rest ih =>
    rw [h.escaped?] at he
    rw [closeAt?_next he ho, ih (h.drop _)]
  | case5 owed outer c r he ho b hb ih =>
    rw [h.escaped?] at he
    rw [h.here] at hb
    rw [closeAt?_opener he ho hb, ih (h.drop _)]
  | case6 owed outer c r he ho hb ih =>
    rw [h.escaped?] at he
    rw [h.here] at hb
    rw [closeAt?_char he ho hb, ih h.tail]

/-- Tables that see the same openers in a text cut the same literal runs from it. -/
theorem run_of_sameOpeners (h : SameOpeners bs bs' s) : run bs s = run bs' s := by
  fun_induction run bs s with
  | case1 => rw [run]
  | case2 c r b he rest ih =>
    rw [h.escaped?] at he
    rw [run_escaped he, ← ih (h.tail.drop _)]
  | case3 c r he b hb =>
    rw [h.escaped?] at he
    rw [h.here] at hb
    rw [run_opener he hb]
  | case4 c r he ho rest ih =>
    rw [h.escaped?] at he
    rw [h.here] at ho
    rw [run_char he ho, ← ih h.tail]

/-- Tables that see the same openers in a text cut it into the same pieces. -/
theorem cut_of_sameOpeners {line : Nat} (h : SameOpeners bs bs' s) :
    cut bs line s = cut bs' line s := by
  fun_induction cut bs line s with
  | case1 => rw [cut]
  | case2 line c r b hb body hn =>
    have hclose := closeAt?_of_sameOpeners b.closer [] (h.drop b.opener.length)
    rw [h.here] at hb
    exact (cut_open hb (hclose.symm.trans hn) line).symm
  | case3 line c r b hb body n hn size raw rest ih =>
    have hclose := closeAt?_of_sameOpeners b.closer [] (h.drop b.opener.length)
    rw [h.here] at hb
    rw [cut_tag hb (hclose.symm.trans hn) rfl, ← ih (h.drop _)]
  | case4 line c r ho here rest ih =>
    have hrun : here = run bs' (c :: r) := run_of_sameOpeners h
    rw [h.here] at ho
    rw [cut_run (List.cons_ne_nil c r) ho, ← hrun, ← ih (h.drop _)]

/-- Tables that find the same openers in a text cut it into the same pieces. -/
theorem ofText_of_sameOpeners (h : SameOpeners bs bs' s) :
    Pieces.ofText bs s = Pieces.ofText bs' s :=
  cut_of_sameOpeners h

end SecretWeave.Brackets
