import SecretWeave.Text.Basic

/-!
# Kinds of sources

The kinds of sources that can be named: the environment, a dotenv file and the keychain of the
system.

Main fact: a kind is found by its own name (`ofName?_name`).
-/

namespace SecretWeave

inductive SourceKind where
  | dotenv
  | env
  | keyring
  deriving DecidableEq, Repr

namespace SourceKind

def all : List SourceKind := [.dotenv, .env, .keyring]

def name : SourceKind → Text
  | .dotenv => "dotenv".toList
  | .env => "env".toList
  | .keyring => "keyring".toList

def description : SourceKind → Text
  | .dotenv => "Values from a dotenv file".toList
  | .env => "Process environment variables".toList
  | .keyring => "Uses system keychain".toList

def examples : SourceKind → List Text
  | .dotenv => ["dotenv://.env".toList, "dotenv:.env.production".toList]
  | .env => ["env://".toList, "env://APP_".toList]
  | .keyring => ["keyring://".toList]

def display (k : SourceKind) : Text :=
  k.name ++ ": ".toList ++ k.description ++ " (e.g., ".toList ++
    (k.examples.intersperse ", ".toList).flatten ++ [')']

def ofName? (n : Text) : Option SourceKind :=
  all.find? fun k => k.name = n

theorem mem_all (k : SourceKind) : k ∈ all := by
  cases k <;> simp [all]

theorem ofName?_name (k : SourceKind) : ofName? k.name = some k := by
  cases k <;> decide

end SourceKind

end SecretWeave
