import SecretWeave.Template.Fill
import SecretWeave.Template.Parse
import SecretWeave.Yaml.Document

/-!
# Env files

An env file maps keys to templates. It is written either as lines `KEY=VALUE` or as a flat YAML
mapping; which of the two is found out by trying them in that order. Keys are identifiers.

Main facts: filling and resolving a file work value by value and keep its keys (`keys_of_inject`,
`keys_of_resolve`).
-/

namespace SecretWeave

inductive Format where
  | lines
  | yaml
  deriving DecidableEq, Repr

structure EnvFile where
  format : Format
  entries : OrderedMap Text Template

namespace EnvFile

/-! ## 1. Lines -/

/-- The entry of a line, if it holds one: blank lines and comments hold none. The text before the
first equals sign is the key, the text after it the value; both are trimmed. -/
def readLine (v : Version) (line : Text) : Except Fault (Option (Text × Template)) :=
  match Text.trim line with
  | [] => .ok none
  | '#' :: _ => .ok none
  | trimmed =>
    match Text.cut? '=' trimmed with
    | none => .error .notKeyValue
    | some (k, t) =>
      let key := Text.trim k
      match checkName key with
      | .error f => .error f
      | .ok () =>
        match Template.parse v (Text.trim t) with
        | .error f => .error f
        | .ok template => .ok (some (key, template))

/-- Stores the entries of lines, the first of which has the number `n`. A fault is placed on its
line. -/
def readLines (v : Version) :
    Nat → OrderedMap Text Template → List Text → Except Fault (OrderedMap Text Template)
  | _, m, [] => .ok m
  | n, m, line :: ls =>
    match readLine v line with
    | .error f => .error (f.atLine n)
    | .ok none => readLines v (n + 1) m ls
    | .ok (some (k, t)) => readLines v (n + 1) (m.insert k t) ls

def parseLines (v : Version) (s : Text) : Except Fault EnvFile :=
  match readLines v 1 ∅ (Text.lines s) with
  | .error f => .error f
  | .ok m => .ok ⟨.lines, m⟩

/-! ## 2. YAML -/

def scalarText? : Yaml.Value → Option Text
  | .null => some []
  | .bool b => some (if b then "true".toList else "false".toList)
  | .number n => some n.text
  | .string t => some t
  | .sequence _ => none
  | .mapping _ => none
  | .tagged _ _ => none

def unplaced (reason : Text) : Fault :=
  .malformedDocument none (.stated reason)

def notMapping : Text := "expected a mapping of key: value pairs".toList

def keyNotScalar : Text := "keys must be scalars".toList

def valueNotScalar (key : Text) : Text :=
  "value of '".toList ++ key ++ "' must be a scalar, nested values are not supported".toList

/-- The entry of a pair. A template's fault says nothing about its line, as that would count from
the start of the value. -/
def readPair (v : Version) (pair : Yaml.Value × Yaml.Value) : Except Fault (Text × Template) :=
  match scalarText? pair.1 with
  | none => .error (unplaced keyNotScalar)
  | some key =>
    match checkName key with
    | .error f => .error f
    | .ok () =>
      match scalarText? pair.2 with
      | none => .error (unplaced (valueNotScalar key))
      | some value =>
        match Template.parse v value with
        | .error f => .error f.root
        | .ok t => .ok (key, t)

def readPairs (v : Version) :
    OrderedMap Text Template → List (Yaml.Value × Yaml.Value) →
      Except Fault (OrderedMap Text Template)
  | m, [] => .ok m
  | m, pair :: ps =>
    match readPair v pair with
    | .error f => .error f
    | .ok (k, t) => readPairs v (m.insert k t) ps

def ofValue (v : Version) : Yaml.Value → Except Fault (OrderedMap Text Template)
  | .mapping pairs => readPairs v ∅ pairs
  -- a document that says nothing is a file without entries
  | .null => .ok ∅
  | _ => .error (unplaced notMapping)

def parseYaml (v : Version) (s : Text) : Except Fault EnvFile :=
  match Yaml.load s with
  | .error flaw => .error (.malformedDocument flaw.line .unreadable)
  | .ok value =>
    match ofValue v value with
    | .error f => .error f
    | .ok m => .ok ⟨.yaml, m⟩

/-! ## 3. Both -/

/-- Reads a file however it is written. When it is written in neither way, the fault is that of the
lines, which tells where it is. -/
def parse (v : Version) (s : Text) : Except Fault EnvFile :=
  match parseLines v s with
  | .ok file => .ok file
  | .error f =>
    match parseYaml v s with
    | .ok file => .ok file
    | .error _ => .error f

/-! ## 4. Filling -/

def secrets (file : EnvFile) : List Text :=
  distinct (file.entries.values.flatMap Template.lookups)

def inject (vars : Bindings) (file : EnvFile) : Except Fault EnvFile :=
  match file.entries.traverse (Template.inject vars) with
  | .error f => .error f
  | .ok m => .ok ⟨file.format, m⟩

def resolve (secrets : Secrets) (file : EnvFile) : Except Fault (OrderedMap Text Text) :=
  file.entries.traverse (Template.resolve secrets)

theorem keys_of_inject {vars : Bindings} {file filled : EnvFile}
    (h : file.inject vars = .ok filled) : filled.entries.keys = file.entries.keys := by
  unfold inject at h
  split at h
  · simp at h
  · rename_i m hm
    obtain rfl := Except.ok.inj h
    exact OrderedMap.keys_of_traverse hm

theorem keys_of_resolve {secrets : Secrets} {file : EnvFile} {texts : OrderedMap Text Text}
    (h : file.resolve secrets = .ok texts) : texts.keys = file.entries.keys :=
  OrderedMap.keys_of_traverse h

def same (a b : EnvFile) : Bool :=
  a.format == b.format && a.entries.sameEntries b.entries

end EnvFile

end SecretWeave
