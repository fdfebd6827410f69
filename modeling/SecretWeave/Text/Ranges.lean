import SecretWeave.Text.Digits

/-!
# Ranges

Classes of characters that are written as the ranges of their code points, to the base sixteen: a
range is one number, or its first and its last with a dash between them, and blanks separate ranges.

Main fact: a range without a dash is one number (`readRange_of_not_mem`).
-/

namespace SecretWeave.Text

def hexNumber (s : Text) : Nat :=
  (readDigits? 16 s).getD 0

def readRange (s : Text) : Nat × Nat :=
  match cut? '-' s with
  | some (first, last) => (hexNumber first, hexNumber last)
  | none => (hexNumber s, hexNumber s)

theorem readRange_of_not_mem {s : Text} (h : '-' ∉ s) :
    readRange s = (hexNumber s, hexNumber s) := by
  rw [readRange, cut?_eq_none_iff.2 h]

def readRanges (lines : List String) : List (Nat × Nat) :=
  lines.flatMap fun line => (split ' ' line.toList).map readRange

example : readRanges ["b7 df-f6"] = [(0xB7, 0xB7), (0xDF, 0xF6)] := by decide

end SecretWeave.Text
