import SecretWeave.Text.Basic

/-!
# Lines of a dotenv file

A line feed ends a line of a dotenv file, unless it stands in quotes or behind a backslash; the
quoted text then goes on in the next line. A number sign behind a blank starts a comment, which
lasts to the line feed, and a line that starts with one is a comment as a whole.

Main fact: the rows of a text are the whole text (`flatten_rows`).
-/

namespace SecretWeave.Dotenv

inductive Place where
  | bare
  | blank
  | escaped
  | strong
  | strongEscaped
  | weak
  | weakEscaped
  deriving DecidableEq, Repr

def Place.outside (c : Char) : Option Place :=
  match c with
  | '\\' => some .escaped
  | '"' => some .weak
  | '\'' => some .strong
  | _ => none

/-- The place behind a character. Behind a blank, a second one counts as any other character. -/
def Place.next (p : Place) (c : Char) : Place :=
  match p with
  | .bare =>
    (outside c).getD (if Text.isBlank c && c != '\n' && c != '\r' then .blank else .bare)
  | .blank => (outside c).getD .bare
  | .escaped => .bare
  | .strong => if c = '\\' then .strongEscaped else if c = '\'' then .bare else .strong
  | .strongEscaped => .strong
  | .weak => if c = '\\' then .weakEscaped else if c = '"' then .bare else .weak
  | .weakEscaped => .weak

/-- The part of a row before its comment, and the place at its end. A comment ends outside of
everything. -/
def uncomment : Place → Text → Text × Place
  | p, [] => ([], p)
  | p, c :: r =>
    if p = .blank ∧ c = '#' then ([], .bare)
    else (c :: (uncomment (p.next c) r).1, (uncomment (p.next c) r).2)

def rows : Text → List Text
  | [] => []
  | c :: r =>
    if c = '\n' then [c] :: rows r
    else match rows r with
      | [] => [[c]]
      | l :: ls => (c :: l) :: ls

theorem flatten_rows (s : Text) : (rows s).flatten = s := by
  induction s with
  | nil => rfl
  | cons c r ih =>
    unfold rows
    split
    · simp [ih]
    · split
      · rename_i he
        simp [he] at ih
        simp [ih]
      · rename_i he
        simp [he] at ih
        simp [ih]

/-- Puts rows together to lines; `unfinished` holds the rows of a line so far. None if the last line
stays unfinished. -/
def join (unfinished : Text) (p : Place) : List Text → Option (List Text)
  | [] => if p = .bare then some [] else none
  | row :: rs =>
    -- looked at before quotes are: such a row ends the line even in the middle of one
    if (Text.trimStart (unfinished ++ row)).head? = some '#' then join [] .bare rs
    else
      match uncomment p row with
      | (kept, .bare) => (join [] .bare rs).map ((unfinished ++ kept) :: ·)
      | (_, p') => join (unfinished ++ row) p' rs

/-- The lines of a text without their comments, if the last one is finished. -/
def lines (s : Text) : Option (List Text) :=
  join [] .bare (rows s)

end SecretWeave.Dotenv
