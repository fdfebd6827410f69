import SecretWeave.Failure
import SecretWeave.Template.Fill

/-!
# Variables

Values of variables come from two sides: from the environment, under names that start with a common
prefix, and from pairs that are given explicitly. An explicit value always counts more, in whatever
order the two were collected.

Main fact: every name of a mapping that was built is an identifier (`isName_of_build`).
-/

namespace SecretWeave

structure Variables where
  ambient : Bindings
  explicit : Bindings

namespace Variables

def none : Variables := ⟨∅, ∅⟩

def ambientStart : Text := "SECRETINJECT_VAR_".toList

def ambient? (entry : Text × Text) : Option (Text × Text) :=
  (Text.after? ambientStart entry.1).map (·, entry.2)

def addEnvironment (vs : Variables) (env : List (Text × Text)) : Variables :=
  { vs with ambient := vs.ambient.insertAll (env.filterMap ambient?) }

def addPairs (vs : Variables) (pairs : List (Text × Text)) : Variables :=
  { vs with explicit := vs.explicit.insertAll pairs }

def merged (vs : Variables) : Bindings :=
  vs.ambient.insertAll vs.explicit.entries

def least? : List Text → Option Text
  | [] => Option.none
  | t :: ts =>
    match least? ts with
    | some u => some (if u < t then u else t)
    | Option.none => some t

/-- The mapping, if every name is an identifier; otherwise the smallest name that is none. -/
def build (vs : Variables) : Except Failure Bindings :=
  match least? (vs.merged.keys.filter fun n => !Text.isName n) with
  | some n => .error (.badVariable n)
  | Option.none => .ok vs.merged

theorem least?_eq_none_iff {ts : List Text} : least? ts = Option.none ↔ ts = [] := by
  cases ts with
  | nil => simp [least?]
  | cons t ts =>
    simp only [least?, reduceCtorEq, iff_false]
    split <;> simp

theorem isName_of_build {vs : Variables} {m : Bindings} (h : vs.build = .ok m) :
    ∀ n ∈ m.keys, Text.isName n = true := by
  unfold build at h
  split at h
  · simp at h
  · rename_i hl
    obtain rfl := Except.ok.inj h
    intro n hn
    have he := least?_eq_none_iff.1 hl
    have := List.filter_eq_nil_iff.1 he n hn
    simpa using this

def readPair (s : Text) : Except Text (Text × Text) :=
  match Text.cut? '=' s with
  | some p => .ok p
  | Option.none => .error ("expected name=value, got '".toList ++ s ++ "'".toList)

end Variables

end SecretWeave
