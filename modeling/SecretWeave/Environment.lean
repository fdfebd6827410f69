import SecretWeave.OrderedMap

/-!
# Environments

The values that a process is given by name. Names keep the order in which they came.

An environment is handed to a process as texts `name=value`, and a value is looked up in these: what
follows the first text that starts with the name and an equals sign. For names without an equals
sign that is the value of the name (`valueIn_of_not_mem`); with one, a part of a value may answer.
-/

namespace SecretWeave

abbrev Environment := OrderedMap Text Text

namespace Environment

def valueOf (env : Environment) (name : Text) : Text :=
  (env.get? name).getD []

/-- An environment sorted by name, as a new process gets it; the last value of a name counts. -/
def arranged (entries : List (Text × Text)) : Environment :=
  OrderedMap.ofList
    ((OrderedMap.ofList entries).entries.mergeSort fun a b => Text.atMost a.1 b.1)

def assignment (e : Text × Text) : Text :=
  e.1 ++ '=' :: e.2

def valueIn (assignments : List Text) (name : Text) : Option Text :=
  -- the system finds nothing under the empty name
  if name = [] then none else assignments.findSome? (Text.after? (name ++ ['=']))

def look (env : Environment) (name : Text) : Option Text :=
  valueIn (env.entries.map assignment) name

theorem after?_assignment_of_not_mem {a b : Text} (ha : '=' ∉ a) (hb : '=' ∉ b) (v : Text) :
    Text.after? (a ++ ['=']) (assignment (b, v)) = if b = a then some v else none := by
  unfold assignment
  induction a generalizing b with
  | nil =>
    cases b with
    | nil => simp [Text.after?]
    | cons d b => simp_all [Text.after?]
  | cons c a ih =>
    cases b with
    | nil => simp_all [Text.after?, eq_comm]
    | cons d b =>
      simp only [List.mem_cons, not_or] at ha hb
      by_cases h : c = d
      · simp [Text.after?, h, ih ha.2 hb.2]
      · simp [Text.after?, h, Ne.symm h]

theorem valueIn_of_not_mem {name : Text} (hn : name ≠ []) (h : '=' ∉ name)
    {es : List (Text × Text)} (hes : ∀ e ∈ es, '=' ∉ e.1) :
    valueIn (es.map assignment) name = Entries.find? name es := by
  unfold valueIn
  rw [if_neg hn]
  induction es with
  | nil => rfl
  | cons e es ih =>
    rw [List.map_cons, List.findSome?_cons,
      after?_assignment_of_not_mem h (hes e (List.mem_cons_self ..))]
    by_cases he : e.1 = name
    · simp [Entries.find?, he]
    · simp [Entries.find?, he, ih fun x hx => hes x (List.mem_cons_of_mem _ hx)]

end Environment

end SecretWeave
