import SecretWeave.Source

/-!
# One snapshot

A dotenv source is asked for paths while files and environment change around it. As long as its file
cannot be loaded every question tries anew and is answered with the failure. The first question that
finds a file that can be loaded, or no file, settles what the source holds; from then on nothing that
happens outside matters to it (`dotenv_snapshot`).
-/

namespace SecretWeave.Source

variable {w : World} {file path : Text} {values : Environment}

/-! ## 1. Loading -/

/-- What a dotenv file holds in a world: nothing where there is no such file, and else all that its
whole text says, with names of the environment put in. -/
def Holds (w : World) (file : Text) (values : Environment) : Prop :=
  w.disk.has file = false ∧ values = ∅ ∨
    w.disk.has file = true ∧
      ∃ content, w.read file = .ok content ∧ Dotenv.parse w.env content = some values

/-- A file that is there is loaded whole or not at all. -/
theorem load_eq_ok_iff : load w file = .ok values ↔ Holds w file values := by
  unfold load Holds
  cases hhas : w.disk.has file with
  | false => simp [eq_comm]
  | true =>
    cases hread : w.read file with
    | error e => simp
    | ok content =>
      cases hparse : Dotenv.parse w.env content with
      | none => simp [hparse]
      | some found => simp [hparse]

theorem not_holds_of_load_error {e : Failure} (h : load w file = .error e)
    (values : Environment) : ¬ Holds w file values := by
  intro hholds
  cases h.symm.trans (load_eq_ok_iff.2 hholds)

/-! ## 2. One question -/

theorem answerFrom_eq (values : Environment) (path : Text) :
    answerFrom values path =
      match values.get? (Settings.keyOf path) with
      | some value => .ok (Text.utf8 value)
      | none => .error (.secretNotFound path) := by
  unfold answerFrom answer
  cases values.get? (Settings.keyOf path) <;> rfl

theorem ask_of_load_error {e : Failure} (h : load w file = .error e) (path : Text) :
    (Source.dotenv file none).ask w path = (.dotenv file none, .error e) := by
  simp only [ask, h]

theorem ask_of_load_ok (h : load w file = .ok values) (path : Text) :
    (Source.dotenv file none).ask w path =
      (.dotenv file (some values), answerFrom values path) := by
  simp only [ask, h]

/-! ## 3. Courses of events -/

inductive Event where
  | ask (path : Text)
  | change (w : World)

/-- What a source is after a course of events, and its answers in order. -/
def run (w : World) (s : Source) : List Event → Source × List (Except Failure Bytes)
  | [] => (s, [])
  | .ask path :: events =>
    let (s', answer) := s.ask w path
    let (last, answers) := run w s' events
    (last, answer :: answers)
  | .change w' :: events => run w' s events

/-- The questions in a course of events, each with the world in which it is asked. -/
def questions (w : World) : List Event → List (World × Text)
  | [] => []
  | .ask path :: events => (w, path) :: questions w events
  | .change w' :: events => questions w' events

/-- Nothing that happens changes the answers of a source that has loaded its file. -/
theorem run_of_snapshot (w : World) (file : Text) (values : Environment) (events : List Event) :
    run w (.dotenv file (some values)) events =
      (.dotenv file (some values), (questions w events).map fun q => answerFrom values q.2) := by
  induction events generalizing w with
  | nil => rfl
  | cons event events ih =>
    cases event with
    | ask path => simp only [run, questions, ask_of_snapshot, ih, List.map_cons]
    | change w' => exact ih w'

/-- A question that finds a file that cannot be loaded leaves the source as it was, so the rest of a
course goes as if it were the whole. -/
theorem run_ask_of_load_error {e : Failure} (h : load w file = .error e) (path : Text)
    (events : List Event) :
    run w (.dotenv file none) (.ask path :: events) =
      ((run w (.dotenv file none) events).1, .error e :: (run w (.dotenv file none) events).2) := by
  simp only [run, ask_of_load_error h]

/-- The first question that finds a file that can be loaded settles the rest of a course. -/
theorem run_ask_of_load_ok (h : load w file = .ok values) (path : Text) (events : List Event) :
    run w (.dotenv file none) (.ask path :: events) =
      (.dotenv file (some values),
        (questions w (.ask path :: events)).map fun q => answerFrom values q.2) := by
  simp only [run, questions, ask_of_load_ok h, run_of_snapshot, List.map_cons]

/-- Each question finds a file that is there and cannot be loaded, and is answered with what came of
the attempt. -/
inductive AllFail (file : Text) : List (World × Text) → List (Except Failure Bytes) → Prop where
  | nil : AllFail file [] []
  | cons {w : World} {path : Text} {qs : List (World × Text)} {e : Failure}
      {answers : List (Except Failure Bytes)} (unheld : ∀ values, ¬ Holds w file values)
      (failed : load w file = .error e) (rest : AllFail file qs answers) :
      AllFail file ((w, path) :: qs) (.error e :: answers)

/-- A dotenv source answers from one snapshot. Either its file cannot be loaded at any question:
then every answer is the failure of that moment and the source stays as it was. Or there is a first
question at which it can: what the file holds at that moment is kept, and from this question on every
answer is the value that it has for the path's name, or that the path has none. -/
theorem dotenv_snapshot (w : World) (file : Text) (events : List Event) :
    let (source, answers) := run w (.dotenv file none) events
    (source = .dotenv file none ∧ AllFail file (questions w events) answers) ∨
      ∃ before q after failures values,
        questions w events = before ++ q :: after ∧ AllFail file before failures ∧
          Holds q.1 file values ∧ source = .dotenv file (some values) ∧
          answers = failures ++ (q :: after).map fun q =>
            match values.get? (Settings.keyOf q.2) with
            | some value => .ok (Text.utf8 value)
            | none => .error (.secretNotFound q.2) := by
  -- as long as nothing was loaded the source is the one at the start, so the induction needs no
  -- invariant; once something was, `run_of_snapshot` answers for all that follows
  induction events generalizing w with
  | nil => exact .inl ⟨rfl, .nil⟩
  | cons event events ih =>
    cases event with
    | change w' => exact ih w'
    | ask path =>
      cases hload : load w file with
      | error e =>
        have hunheld := not_holds_of_load_error hload
        rw [run_ask_of_load_error hload]
        rcases ih w with ⟨hsource, hfail⟩ | ⟨before, q, after, failures, values, hqs, hfail, hq⟩
        · exact .inl ⟨hsource, .cons hunheld hload hfail⟩
        · obtain ⟨hholds, hsource, hanswers⟩ := hq
          refine .inr ⟨(w, path) :: before, q, after, .error e :: failures, values, ?_,
            .cons hunheld hload hfail, hholds, hsource, ?_⟩
          · rw [questions, hqs, List.cons_append]
          · rw [hanswers, List.cons_append]
      | ok values =>
        rw [run_ask_of_load_ok hload]
        refine .inr ⟨[], (w, path), questions w events, [], values, rfl, .nil,
          load_eq_ok_iff.1 hload, rfl, ?_⟩
        simp only [questions, List.nil_append, answerFrom_eq]

end SecretWeave.Source
