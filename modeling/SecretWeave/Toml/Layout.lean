import SecretWeave.Text.Basic

/-!
# Layout of a TOML document

Blanks, line breaks and comments: what stands between the parts of a document.

Main facts: skipping never makes a text longer (`length_skipBlanks_le`, `length_skipLayout_le`).
-/

namespace SecretWeave.Toml

def isBlank (c : Char) : Bool :=
  c == ' ' || c == '\t'

/-- A character that may stand as it is in a comment or in quotes: no control character but the
tab. -/
def isPlain (c : Char) : Bool :=
  c == '\t' || (0x20 ≤ c.toNat && c.toNat != 0x7F)

def skipBlanks (s : Text) : Text :=
  s.dropWhile isBlank

def newline? : Text → Option Text
  | '\n' :: r => some r
  | '\r' :: '\n' :: r => some r
  | _ => none

def skipLayout : Text → Text
  | [] => []
  | '\r' :: '\n' :: r => skipLayout r
  | c :: r => if isBlank c || c == '\n' then skipLayout r else c :: r

def skipComment : Text → Text
  | '#' :: r => r.dropWhile isPlain
  | s => s

/-- What follows the end of a line: blanks, perhaps a comment, and a line break or the end. -/
def lineEnd? (s : Text) : Option Text :=
  match skipComment (skipBlanks s) with
  | [] => some []
  | r => newline? r

theorem length_skipBlanks_le (s : Text) : (skipBlanks s).length ≤ s.length :=
  (List.dropWhile_suffix _).length_le

theorem length_skipLayout_le (s : Text) : (skipLayout s).length ≤ s.length := by
  fun_induction skipLayout s with
  | case1 => exact Nat.le_refl _
  -- a line break of two characters
  | case2 _ ih => exact Nat.le_succ_of_le (Nat.le_succ_of_le ih)
  | case3 _ _ _ _ ih => exact Nat.le_succ_of_le ih
  | case4 => exact Nat.le_refl _

theorem length_newline?_lt {s r : Text} (h : newline? s = some r) : r.length < s.length := by
  unfold newline? at h
  split at h
  · obtain rfl := Option.some.inj h
    simp
  · obtain rfl := Option.some.inj h
    exact Nat.lt_succ_of_lt (Nat.lt_succ_self _)
  · simp at h

def skipFiller (s : Text) : Text :=
  if _h : (skipComment (skipLayout s)).length < (skipLayout s).length then
    skipFiller (skipComment (skipLayout s))
  else skipLayout s
termination_by s.length
decreasing_by
  have := length_skipLayout_le s
  omega

end SecretWeave.Toml
