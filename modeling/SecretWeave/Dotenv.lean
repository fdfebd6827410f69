import SecretWeave.Dotenv.Line
import SecretWeave.Dotenv.Value
import SecretWeave.Environment
import SecretWeave.Text.Name

/-!
# Dotenv files

A dotenv file sets names to values, one line each. A value may use names of the environment and
names that are set on earlier lines; the environment counts more.
-/

namespace SecretWeave.Dotenv

inductive Line where
  | empty
  | entry (name value : Text)
  deriving DecidableEq, Repr

def continuesKey (c : Char) : Bool :=
  Text.continuesName c || c == '.'

/-- The name at the start, and what follows it and the blanks behind it. -/
def key? : Text → Option (Text × Text)
  | [] => none
  | c :: r =>
    if Text.startsName c then
      some (c :: r.takeWhile continuesKey, Text.trimStart (r.dropWhile continuesKey))
    else none

/-- The name of an entry and what follows its equals sign. The word `export` may stand before
the name. -/
def assignment? (s : Text) : Option (Text × Text) :=
  match key? s with
  | none => none
  | some (k, '=' :: r) => some (k, r)
  | some (k, r) =>
    if k = "export".toList then
      match key? r with
      | some (k, '=' :: r) => some (k, r)
      | _ => none
    else none

def readLine (look : Text → Text) (line : Text) : Option Line :=
  match Text.trim line with
  | [] => some .empty
  | '#' :: _ => some .empty
  | s =>
    match assignment? s with
    | none => none
    | some (k, v) =>
      match Text.trimStart v with
      | [] => some (.entry k [])
      | '#' :: _ => some (.entry k [])
      | v => (Value.read look v).map (.entry k)

/-- The value of a name: that of the environment, or of an earlier line, or nothing. -/
def lookUp (env file : Environment) (name : Text) : Text :=
  ((env.look name).or (file.get? name)).getD []

def readEntries (env : Environment) : Environment → List Text → Option Environment
  | m, [] => some m
  | m, l :: ls =>
    match readLine (lookUp env m) l with
    | none => none
    | some .empty => readEntries env m ls
    | some (.entry k v) => readEntries env (m.insert k v) ls

def parse (env : Environment) (s : Text) : Option Environment :=
  match lines s with
  | some ls => readEntries env ∅ ls
  | none => none

end SecretWeave.Dotenv
