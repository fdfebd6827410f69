import SecretWeave.Text.Basic

/-!
# Brackets

A tag of a template stands between an opener and a closer. A table of brackets says which ones
count; where two openers fit, the earlier bracket of the table wins. A backslash directly before
an opener takes its meaning away.

`closeAt?` finds the closer of a tag. Tags inside the tag are matched first, so that a closer that
belongs to one of them is passed over; the closers still owed are kept on a stack, the innermost on
top.

Main facts: `opener?` answers with an opener the text begins with (`opener?_eq_some`), `escaped?`
with one it begins with after the mark (`escaped?_eq_some`).
-/

namespace SecretWeave

/-- An opener and its closer. An opener is never empty; a closer may be. -/
structure Bracket where
  opener : Text
  closer : Text
  opener_ne_nil : opener ≠ [] := by decide
  deriving DecidableEq, Repr

abbrev Brackets := List Bracket

namespace Bracket

def dollar : Bracket where
  opener := ['$', '\x7b']
  closer := ['\x7d']

def braces : Bracket where
  opener := ['\x7b', '\x7b']
  closer := ['\x7d', '\x7d']

/-- The length of an opener is positive. -/
theorem length_opener_pos (b : Bracket) : 0 < b.opener.length :=
  List.length_pos_iff.2 b.opener_ne_nil

end Bracket

namespace Brackets

def escapeMark : Char := '\\'

def opener? (bs : Brackets) (s : Text) : Option Bracket :=
  bs.find? fun b => b.opener.isPrefixOf s

def escaped? (bs : Brackets) : Text → Option Bracket
  | [] => none
  | c :: r => if c = escapeMark then opener? bs r else none

theorem opener?_eq_some {bs : Brackets} {s : Text} {b : Bracket} (h : opener? bs s = some b) :
    b ∈ bs ∧ ∃ r, s = b.opener ++ r := by
  refine ⟨List.mem_of_find?_eq_some h, ?_⟩
  have hb : b.opener.isPrefixOf s = true := by
    unfold opener? at h
    exact List.find?_some (p := fun b : Bracket => b.opener.isPrefixOf s) h
  obtain ⟨r, hr⟩ := List.isPrefixOf_iff_prefix.1 hb
  exact ⟨r, hr.symm⟩

theorem escaped?_eq_some {bs : Brackets} {s : Text} {b : Bracket} (h : escaped? bs s = some b) :
    b ∈ bs ∧ ∃ r, s = escapeMark :: b.opener ++ r := by
  cases s with
  | nil => simp [escaped?] at h
  | cons c r =>
    by_cases hc : c = escapeMark
    · simp only [escaped?, hc, if_true] at h
      obtain ⟨hb, t, rfl⟩ := opener?_eq_some h
      exact ⟨hb, t, by simp [hc]⟩
    · simp [escaped?, hc] at h

@[simp] theorem opener?_nil (bs : Brackets) : opener? bs [] = none := by
  refine List.find?_eq_none.2 fun b _ => ?_
  have := b.opener_ne_nil
  cases h : b.opener with
  | nil => exact absurd h this
  | cons c r => simp [List.isPrefixOf]

/-- How far it is to the closer of the outermost tag, when the tags on the stack are open and the
innermost of them owes the closer on top. -/
def closeAt? (bs : Brackets) (owed : Text) (outer : List Text) : Text → Option Nat
  | [] => none
  | c :: r =>
    -- an escaped opener is stepped over as a whole, also where a closer would start inside it
    match escaped? bs (c :: r) with
    | some b =>
      (closeAt? bs owed outer (r.drop b.opener.length)).map (· + (1 + b.opener.length))
    | none =>
      -- a closer that is owed counts before an opener of the same text
      if owed.isPrefixOf (c :: r) then
        match outer with
        | [] => some 0
        | next :: rest =>
          (closeAt? bs next rest ((c :: r).drop owed.length)).map (· + owed.length)
      else
        match opener? bs (c :: r) with
        | some b =>
          (closeAt? bs b.closer (owed :: outer) ((c :: r).drop b.opener.length)).map
            (· + b.opener.length)
        | none => (closeAt? bs owed outer r).map (· + 1)
-- an empty closer takes no text, but then the stack gets shorter
termination_by s => 2 * s.length + outer.length
decreasing_by
  · simp only [List.length_drop, List.length_cons]; omega
  · simp only [List.length_drop, List.length_cons]; omega
  · have := b.length_opener_pos
    simp only [List.length_drop, List.length_cons]; omega
  · simp only [List.length_cons]; omega

def closer? (bs : Brackets) (b : Bracket) (body : Text) : Option Nat :=
  closeAt? bs b.closer [] body

end Brackets

end SecretWeave
