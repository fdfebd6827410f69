import SecretWeave.Bracket
import SecretWeave.Fault

/-!
# Template versions

There are two versions of the template syntax. The first knows one bracket, a dollar sign and
a brace; the second also knows double braces and prefers them.

Main fact: a version is selected by its own number (`ofSelector_number`), and the newest by
`latest` as well.
-/

namespace SecretWeave

inductive Version where
  | v1
  | v2
  deriving DecidableEq, Repr

namespace Version

def newest : Version := .v2

def number : Version → Text
  | .v1 => ['1']
  | .v2 => ['2']

def brackets : Version → Brackets
  | .v1 => [.dollar]
  | .v2 => [.braces, .dollar]

def newestSelector : Text := "latest".toList

def ofSelector (s : Text) : Except Fault Version :=
  if s = number .v1 then .ok .v1
  else if s = number .v2 then .ok .v2
  else if s = newestSelector then .ok newest
  else .error (.unknownVersion s)

theorem ofSelector_number (v : Version) : ofSelector v.number = .ok v := by
  cases v <;> rfl

end Version

end SecretWeave
