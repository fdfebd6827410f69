import SecretWeave.Inject

/-!
# The environment of a child

A command is run in an environment made of three layers: what it would inherit, the values of an
env file, which replace inherited values, and inherited values that are references to secrets, which
give way to the secrets and replace both. All secrets are fetched in one pass.
-/

namespace SecretWeave

structure ChildEnvironment where
  inherited : List (Text × Text)
  envFile : Option Text
  version : Version
  vars : Bindings

namespace ChildEnvironment

def referenceStart : Text := "secretinject://".toList

def reference? (value : Text) : Option Text :=
  Text.after? referenceStart value

/-- The inherited references with their keys, up to the first that holds no path. -/
def references : List (Text × Text) → Except Failure (List (Text × Text))
  | [] => .ok []
  | (key, value) :: es =>
    match reference? value with
    | none => references es
    | some path =>
      match checkPath path with
      | .error f => .error (.template f)
      | .ok () =>
        match references es with
        | .error e => .error e
        | .ok rs => .ok ((key, path) :: rs)

def file (c : ChildEnvironment) : Except Failure (Option EnvFile) :=
  match c.envFile with
  | none => .ok none
  | some s =>
    match prepareFile c.version c.vars s with
    | .error e => .error e
    | .ok f => .ok (some f)

def storeReferences (values : Secrets) (m : OrderedMap Text Text) (rs : List (Text × Text)) :
    OrderedMap Text Text :=
  rs.foldl
    (fun m r => match values.get? r.2 with
      | some v => m.insert r.1 (Text.decode v)
      | none => m)
    m

def layers (inherited : OrderedMap Text Text) (file : Option EnvFile) (rs : List (Text × Text))
    (values : Secrets) : Except Failure (OrderedMap Text Text) :=
  match file with
  | none => .ok (storeReferences values inherited rs)
  | some f =>
    match f.resolve values with
    | .error e => .error (.template e)
    | .ok m => .ok (storeReferences values (inherited.insertAll m.entries) rs)

def resolve (c : ChildEnvironment) (look : Lookup) : Answer (OrderedMap Text Text) :=
  let inherited := OrderedMap.ofList c.inherited
  match c.file with
  | .error e => .fail e
  | .ok file =>
    match references inherited.entries with
    | .error e => .fail e
    | .ok rs =>
      -- one pass for both, so that a path of a reference and of the file is fetched once
      let paths := distinct (rs.map Prod.snd ++ (file.map EnvFile.secrets).getD [])
      (fetch look paths).andThen (layers inherited file rs)

end ChildEnvironment

end SecretWeave
