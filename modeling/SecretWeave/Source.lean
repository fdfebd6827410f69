import SecretWeave.Dotenv
import SecretWeave.Inject
import SecretWeave.Source.Settings
import SecretWeave.World

/-!
# Sources

A source answers a path with a value or with a failure. What the environment holds is read anew for
every path. A dotenv file is read for the first path and kept: later changes of the file and of the
environment do not matter. A missing file counts as an empty one; a file that cannot be read is
tried again for the next path. The keychain has a service of its own for each path.

Main facts: a source that has read its file answers from it alone (`ask_of_snapshot`), and within
one world a source answers the same path in the same way (`lookup_after_ask`).
-/

namespace SecretWeave

inductive Source where
  | env (start : Option Text)
  | dotenv (path : Text) (snapshot : Option Environment)
  | keyring
  | fixed (values : Secrets)

namespace Source

def ofSettings : Settings → Source
  | .env start => .env start
  | .dotenv path => .dotenv path none
  | .keyring => .keyring

def ofSpec (spec : Text) : Except Failure Source :=
  match Settings.ofSpec spec with
  | .error e => .error e
  | .ok s => .ok (ofSettings s)

def name : Source → Text
  | .env _ => SourceKind.env.name
  | .dotenv _ _ => SourceKind.dotenv.name
  | .keyring => SourceKind.keyring.name
  | .fixed _ => "static".toList

def answer (path : Text) : Option Bytes → Except Failure Bytes
  | some v => .ok v
  | none => .error (.secretNotFound path)

def load (w : World) (path : Text) : Except Failure Environment :=
  if w.disk.has path then
    match w.read path with
    | .error _ => .error .badDotenv
    | .ok content =>
      match Dotenv.parse w.env content with
      | some values => .ok values
      | none => .error .badDotenv
  else .ok ∅

def answerFrom (values : Environment) (path : Text) : Except Failure Bytes :=
  answer path ((values.get? (Settings.keyOf path)).map Text.utf8)

def answerKeychain (w : World) (path : Text) : Except Failure Bytes :=
  match w.keychain (Settings.serviceOf path) with
  | .password value => .ok (Text.utf8 value)
  | .noEntry => .error (.secretNotFound path)
  | .failed => .error .keychain

def ask (w : World) (s : Source) (path : Text) : Source × Except Failure Bytes :=
  match s with
  | .env start => (s, answer path ((w.env.look (Settings.keyUnder start path)).map Text.utf8))
  | .dotenv _ (some values) => (s, answerFrom values path)
  | .dotenv file none =>
    match load w file with
    -- nothing is kept, so that the next path has the file read again
    | .error e => (s, .error e)
    | .ok values => (.dotenv file (some values), answerFrom values path)
  | .keyring => (s, answerKeychain w path)
  | .fixed values => (s, answer path (values.get? path))

def lookup (w : World) (s : Source) : Lookup :=
  fun path => (s.ask w path).2

theorem ask_of_snapshot (w : World) (file : Text) (values : Environment) (path : Text) :
    (Source.dotenv file (some values)).ask w path =
      (.dotenv file (some values), answerFrom values path) := rfl

theorem lookup_after_ask (w : World) (s : Source) (p q : Text) :
    ((s.ask w p).1.ask w q).2 = (s.ask w q).2 := by
  cases s with
  | env start => rfl
  | keyring => rfl
  | fixed values => rfl
  | dotenv file snapshot =>
    cases snapshot with
    | some values => rfl
    | none =>
      cases h : load w file with
      | error e => simp [ask, h]
      | ok values => simp [ask, h]

end Source

end SecretWeave
