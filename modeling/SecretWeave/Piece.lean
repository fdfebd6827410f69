import SecretWeave.Bracket
import SecretWeave.Fault

/-!
# Pieces of a text

A text is cut into literal runs and tags. A literal run lasts until the next opener; openers
behind an escape mark belong to it and lose the mark. A tag lasts from an opener to the closer that
matches it. A tag without a closer ends the cutting with a fault.

Main fact: no opener means a run of at least one character (`length_run_raw_pos`).
-/

namespace SecretWeave

inductive Piece where
  | literal (text raw : Text)
  /-- A tag: its bracket, what stands inside, the whole of it as written, and the line of its
  opener. -/
  | tag (bracket : Bracket) (content raw : Text) (line : Nat)
  deriving DecidableEq, Repr

/-- A text cut into pieces, up to its end or to the tag that is never closed. -/
structure Pieces where
  pieces : List Piece
  fault : Option Fault
  deriving DecidableEq, Repr

structure Run where
  text : Text
  raw : Text
  deriving DecidableEq, Repr

namespace Piece

def raw : Piece → Text
  | .literal _ raw => raw
  | .tag _ _ raw _ => raw

end Piece

namespace Brackets

/-- The literal run at the start of a text: all up to the next opener that is not escaped. -/
def run (bs : Brackets) : Text → Run
  | [] => ⟨[], []⟩
  | c :: r =>
    match escaped? bs (c :: r) with
    | some b =>
      let rest := run bs (r.drop b.opener.length)
      ⟨b.opener ++ rest.text, c :: b.opener ++ rest.raw⟩
    | none =>
      match opener? bs (c :: r) with
      | some _ => ⟨[], []⟩
      | none =>
        let rest := run bs r
        ⟨c :: rest.text, c :: rest.raw⟩
termination_by s => s.length
decreasing_by
  · simp only [List.length_drop, List.length_cons]; omega
  · simp

theorem length_run_raw_pos {bs : Brackets} {c : Char} {r : Text}
    (h : opener? bs (c :: r) = none) : 0 < (run bs (c :: r)).raw.length := by
  rw [run]
  split
  · simp
  · simp [h]

def cut (bs : Brackets) (line : Nat) : Text → Pieces
  | [] => ⟨[], none⟩
  | c :: r =>
    match _h : opener? bs (c :: r) with
    | some b =>
      -- lines are counted over the raw text, so a tag may span several
      let body := (c :: r).drop b.opener.length
      match closer? bs b body with
      | none => ⟨[], some ((Fault.unclosedTag b.closer).atLine line)⟩
      | some n =>
        let size := b.opener.length + n + b.closer.length
        let raw := (c :: r).take size
        let rest := cut bs (line + Text.newlines raw) ((c :: r).drop size)
        ⟨.tag b (body.take n) raw line :: rest.pieces, rest.fault⟩
    | none =>
      let here := run bs (c :: r)
      let rest := cut bs (line + Text.newlines here.raw) ((c :: r).drop here.raw.length)
      ⟨.literal here.text here.raw :: rest.pieces, rest.fault⟩
termination_by s => s.length
decreasing_by
  · have := b.length_opener_pos
    simp only [List.length_drop, List.length_cons]; omega
  · have := length_run_raw_pos _h
    simp only [List.length_drop, List.length_cons]; omega

end Brackets

def Pieces.ofText (bs : Brackets) (s : Text) : Pieces :=
  Brackets.cut bs 1 s

def Pieces.raw (ps : Pieces) : Text :=
  ps.pieces.flatMap Piece.raw

end SecretWeave
