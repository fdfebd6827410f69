import SecretWeave.Text.Alphanumeric

/-!
# Values of a dotenv file

A value is read character by character. Single quotes keep what they hold; outside of them a
backslash escapes and a dollar sign puts in the value of a name, which is a run of letters and
digits or stands in braces. A blank outside of quotes ends the value: only a comment may follow.

Main fact: a value of plain characters stands for itself (`read_eq_self`).
-/

namespace SecretWeave.Dotenv.Value

inductive Mode where
  | open (quoted : Bool)
  | escape (quoted : Bool)
  | strong
  | name (quoted : Bool) (sofar : Text)
  | braced (quoted : Bool) (sofar : Text)
  | ended
  deriving DecidableEq, Repr

def unescape? : Char → Option Char
  | '\\' => some '\\'
  | '\'' => some '\''
  | '"' => some '"'
  | '$' => some '$'
  | ' ' => some ' '
  | 'n' => some '\n'
  | _ => none

/-- The mode behind a character that is read as it is, if it is a mark and no part of the value. -/
def mark? (quoted : Bool) (c : Char) : Option Mode :=
  if c = '$' then some (.name quoted [])
  else if c = '\\' then some (.escape quoted)
  else if c = '"' then some (.open !quoted)
  else if quoted then none
  else if c = '\'' then some .strong
  else if c = ' ' ∨ c = '\t' then some .ended
  else none

/-- The value from a mode on; `look` gives the values of names. None if quotes or braces stay open,
if an escape is unknown or if more than a comment follows the end. -/
def readFrom (look : Text → Text) : Mode → Text → Option Text
  | .open quoted, [] => if quoted then none else some []
  | .escape quoted, [] => if quoted then none else some []
  | .strong, [] => none
  | .name quoted n, [] => if quoted then none else some (look n)
  | .braced _ _, [] => none
  | .ended, [] => some []
  | .open quoted, c :: r =>
    match mark? quoted c with
    | some m => readFrom look m r
    | none => (readFrom look (.open quoted) r).map (c :: ·)
  | .escape quoted, c :: r =>
    match unescape? c with
    | some e => (readFrom look (.open quoted) r).map (e :: ·)
    | none => none
  | .strong, c :: r =>
    if c = '\'' then readFrom look (.open false) r
    else (readFrom look .strong r).map (c :: ·)
  | .name quoted n, c :: r =>
    if Text.isAlphanumeric c then readFrom look (.name quoted (n ++ [c])) r
    else if c = '\x7b' ∧ n = [] then readFrom look (.braced quoted []) r
    else if c = '$' then (readFrom look (.name quoted []) r).map (look n ++ ·)
    -- the character behind a name is always part of the value, even if it is a quote or a blank
    else (readFrom look (.open quoted) r).map (look n ++ c :: ·)
  | .braced quoted n, c :: r =>
    if c = '\x7d' then (readFrom look (.open quoted) r).map (look n ++ ·)
    else readFrom look (.braced quoted (n ++ [c])) r
  | .ended, c :: r =>
    if c = ' ' ∨ c = '\t' then readFrom look .ended r
    else if c = '#' then some []
    else none

def read (look : Text → Text) (s : Text) : Option Text :=
  readFrom look (.open false) s

theorem read_eq_self {look : Text → Text} {s : Text} (h : ∀ c ∈ s, mark? false c = none) :
    read look s = some s := by
  induction s with
  | nil => rfl
  | cons c r ih =>
    have hr : readFrom look (.open false) r = some r :=
      ih fun x hx => h x (List.mem_cons_of_mem _ hx)
    simp [read, readFrom, h c (List.mem_cons_self ..), hr]

end SecretWeave.Dotenv.Value
