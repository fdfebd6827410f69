import SecretWeave.EnvFile
import SecretWeave.Failure

/-!
# Injecting secrets

A text or an env file is read, its variables are replaced, the secrets it needs are fetched, and
every reference gives way to its secret. A source of secrets answers a path with a value or with
a failure; an `Answer` also tells which paths the source was asked for.

Main fact: a source is asked path by path until it fails (`fetch_asked_prefix`).
-/

namespace SecretWeave

abbrev Lookup := Text → Except Failure Bytes

structure Answer (α : Type) where
  asked : List Text
  outcome : Except Failure α

namespace Answer

variable {α β : Type}

def fail (e : Failure) : Answer α := ⟨[], .error e⟩

def andThen (a : Answer α) (f : α → Except Failure β) : Answer β where
  asked := a.asked
  outcome := match a.outcome with
    | .ok v => f v
    | .error e => .error e

end Answer

def Failure.lift {α : Type} : Except Fault α → Except Failure α
  | .ok a => .ok a
  | .error f => .error (.template f)

/-! ## 1. Fetching -/

/-- Asks for paths one after the other and adds their values to a map, up to the first failure. -/
def fetchInto (look : Lookup) (m : Secrets) : List Text → Answer Secrets
  | [] => ⟨[], .ok m⟩
  | p :: ps =>
    match look p with
    -- the path that fails was asked for as well
    | .error e => ⟨[p], .error e⟩
    | .ok v =>
      let rest := fetchInto look (m.insert p v) ps
      ⟨p :: rest.asked, rest.outcome⟩

def fetch (look : Lookup) (paths : List Text) : Answer Secrets :=
  fetchInto look ∅ paths

theorem fetchInto_asked_prefix (look : Lookup) (m : Secrets) (ps : List Text) :
    (fetchInto look m ps).asked <+: ps := by
  induction ps generalizing m with
  | nil => simp [fetchInto]
  | cons p ps ih =>
    simp only [fetchInto]
    split
    · exact ⟨ps, rfl⟩
    · rename_i v _
      obtain ⟨t, ht⟩ := ih (m.insert p v)
      exact ⟨t, by simp [ht]⟩

theorem fetch_asked_prefix (look : Lookup) (ps : List Text) : (fetch look ps).asked <+: ps :=
  fetchInto_asked_prefix look ∅ ps

/-! ## 2. Texts -/

def prepare (v : Version) (vars : Bindings) (s : Text) : Except Failure Template :=
  match Template.parse v s with
  | .error f => .error (.template f)
  | .ok t =>
    match t.inject vars with
    | .error f => .error (.ofUsage f)
    | .ok t => .ok t

def inject (v : Version) (vars : Bindings) (look : Lookup) (s : Text) : Answer Text :=
  match prepare v vars s with
  | .error e => .fail e
  | .ok t => (fetch look t.secrets).andThen fun values => Failure.lift (t.resolve values)

/-! ## 3. Env files -/

def prepareFile (v : Version) (vars : Bindings) (s : Text) : Except Failure EnvFile :=
  match EnvFile.parse v s with
  | .error f => .error (.template f)
  | .ok file =>
    match file.inject vars with
    | .error f => .error (.ofUsage f)
    | .ok file => .ok file

def injectFile (v : Version) (vars : Bindings) (look : Lookup) (s : Text) :
    Answer (OrderedMap Text Text) :=
  match prepareFile v vars s with
  | .error e => .fail e
  | .ok file => (fetch look file.secrets).andThen fun values => Failure.lift (file.resolve values)

end SecretWeave
