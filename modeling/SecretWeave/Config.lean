import SecretWeave.Failure
import SecretWeave.Toml.Document

/-!
# Configuration

The configuration names the source and the template version that are used when the call names none.
It is kept in a TOML document, in the table `defaults`; whatever else the document holds does not
matter, but it has to be well formed.
-/

namespace SecretWeave

structure Config where
  source : Option Text
  templateVersion : Option Text
  deriving DecidableEq, Repr

namespace Config

def none : Config := ⟨Option.none, Option.none⟩

instance : Inhabited Config := ⟨none⟩

def builtinSource : Text := "env".toList

def builtinVersion : Text := "latest".toList

/-- The source to use: the explicit choice, else the configured one, else the built-in one. -/
def sourceOr (c : Config) (explicit : Option Text) : Text :=
  (explicit.or c.source).getD builtinSource

def versionOr (c : Config) (explicit : Option Text) : Text :=
  (explicit.or c.templateVersion).getD builtinVersion

/-! ## 1. Reading -/

def tableKey : Text := "defaults".toList

def sourceKey : Text := "source".toList

def versionKey : Text := "template_version".toList

/-- The text under a key, which need not be there but holds nothing else than a text. -/
def textUnder (k : Text) (es : Toml.Entries) : Except Failure (Option Text) :=
  match Toml.Entries.find? k es with
  | Option.none => .ok Option.none
  | some (.string t) => .ok (some t)
  | some _ => .error .badConfig

def ofEntries (es : Toml.Entries) : Except Failure Config :=
  match textUnder sourceKey es with
  | .error e => .error e
  | .ok source =>
    match textUnder versionKey es with
    | .error e => .error e
    | .ok version => .ok ⟨source, version⟩

/-- The choices of a value. They may be given in brackets, both and in their order; a date makes
none. -/
def ofValue : Toml.Value → Except Failure Config
  | .table _ es => ofEntries es
  -- what follows the first two is not looked at
  | .array (.string source :: .string version :: _) => .ok ⟨some source, some version⟩
  | .datetime => .ok none
  | _ => .error .badConfig

def parse (s : Text) : Except Failure Config :=
  match Toml.parse s with
  | Option.none => .error .badConfig
  | some es =>
    match Toml.Entries.find? tableKey es with
    | Option.none => .ok none
    | some v => ofValue v

/-! ## 2. Writing -/

def line (key : Text) : Option Text → Text
  | Option.none => []
  | some t => key ++ " = ".toList ++ Toml.writeQuoted t ++ ['\n']

def render (c : Config) : Text :=
  '[' :: tableKey ++ [']', '\n'] ++ line sourceKey c.source ++ line versionKey c.templateVersion

end Config

end SecretWeave
