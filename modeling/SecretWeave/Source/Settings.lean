import SecretWeave.Failure
import SecretWeave.Source.Kind
import SecretWeave.Url

/-!
# Settings of sources

A source is specified by a URL, the scheme of which is the name of its kind. The slashes in front of
the host may be left out. For the environment the host is what all names start with; for a dotenv
file host and path together are the path of the file; the keychain needs nothing.

Main fact: a specification with slashes names the same source as one without
(`urlText_eq_of_slashes`).
-/

namespace SecretWeave

inductive Settings where
  | env (start : Option Text)
  | dotenv (path : Text)
  | keyring
  deriving DecidableEq, Repr

namespace Settings

def kind : Settings → SourceKind
  | .env _ => .env
  | .dotenv _ => .dotenv
  | .keyring => .keyring

/-! ## 1. Keys -/

/-- The name that a path has in an environment: letters in upper case, digits, and an underscore
for anything else. -/
def keyOf (path : Text) : Text :=
  path.map fun c => if c.isAlphanum then c.toUpper else '_'

def keyUnder (start : Option Text) (path : Text) : Text :=
  start.getD [] ++ keyOf path

def serviceOf (path : Text) : Text :=
  "secretinject/".toList ++ path

def defaultPath : Text := ".env".toList

/-! ## 2. URLs -/

def wrongScheme (scheme : Text) (k : SourceKind) : Text :=
  "Invalid scheme '".toList ++ scheme ++ "' for ".toList ++ k.name ++ " source".toList

def ofUrl (k : SourceKind) (u : Url) : Settings :=
  match k with
  | .env =>
    match u.host with
    | some h => if h.isEmpty then .env none else .env (some (h.map Char.toUpper))
    | none => .env none
  | .dotenv =>
    let path := u.host.getD [] ++ u.path
    .dotenv (if path.isEmpty then defaultPath else path)
  | .keyring => .keyring

def configure (k : SourceKind) (u : Url) : Except Failure Settings :=
  if u.scheme = k.name then .ok (ofUrl k u)
  else .error (.sourceFailed (wrongScheme u.scheme k))

/-! ## 3. Specifications -/

def splitSpec (spec : Text) : Text × Text :=
  (Text.cut? ':' spec).getD (spec, [])

/-- The URL of a specification, as text: slashes are added where there are none. -/
def urlText (scheme rest : Text) : Text :=
  match rest with
  | '/' :: '/' :: _ => scheme ++ ':' :: rest
  | _ => scheme ++ ':' :: '/' :: '/' :: rest

theorem urlText_eq_of_slashes {scheme rest : Text} (h : ¬ ['/', '/'] <+: rest) :
    urlText scheme rest = urlText scheme ('/' :: '/' :: rest) := by
  unfold urlText
  split
  · exact absurd ⟨_, rfl⟩ h
  · rfl

def badSpec (spec : Text) (flaw : Url.Flaw) : Text :=
  "Invalid source specification '".toList ++ spec ++ "': ".toList ++ flaw.message

def ofSpec (spec : Text) : Except Failure Settings :=
  let (scheme, rest) := splitSpec spec
  match SourceKind.ofName? scheme with
  | none => .error (.unknownSource scheme)
  | some k =>
    match Url.ofText (urlText scheme rest) with
    | .error flaw => .error (.sourceFailed (badSpec spec flaw))
    | .ok u => configure k u

end Settings

end SecretWeave
