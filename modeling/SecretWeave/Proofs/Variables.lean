import SecretWeave.Proofs.EnvFile
import SecretWeave.Proofs.Storing
import SecretWeave.Variables

/-!
# Variables from two sides

Values are collected from the environment and from explicit pairs, by any number of calls in any
order. What comes of it is told by what each side was given, in the order of its own calls: where
the calls of one side stand among those of the other does not matter (`build_collect`).
-/

namespace SecretWeave

namespace Variables

variable {n : Text} {m : Bindings} {vs : Variables}

/-! ## 1. The smallest text -/

theorem not_lt_trans {s t u : Text} (hst : ¬ t < s) (htu : ¬ u < t) : ¬ u < s :=
  List.le_trans hst htu

/-- The least of texts is one of them, and none of them is smaller. -/
theorem least?_eq_some_iff {ts : List Text} {t : Text} :
    least? ts = some t ↔ t ∈ ts ∧ ∀ u ∈ ts, ¬ u < t := by
  induction ts generalizing t with
  | nil => simp [least?]
  | cons u ts ih =>
    rw [least?]
    cases hl : least? ts with
    | none =>
      obtain rfl := least?_eq_none_iff.1 hl
      simp only [Option.some.injEq, List.mem_singleton, forall_eq]
      constructor
      · rintro rfl
        exact ⟨rfl, List.lt_irrefl u⟩
      · rintro ⟨rfl, -⟩
        rfl
    | some w =>
      obtain ⟨hw, hleast⟩ := ih.1 hl
      -- nothing is below the smaller of the head and the smallest of the tail
      have hmin : ∃ s, (if w < u then w else u) = s ∧ s ∈ u :: ts ∧ ∀ x ∈ u :: ts, ¬ x < s := by
        refine ⟨_, rfl, ?_⟩
        split
        · rename_i hlt
          exact ⟨List.mem_cons_of_mem u hw, List.forall_mem_cons.2 ⟨List.lt_asymm hlt, hleast⟩⟩
        · rename_i hu
          exact ⟨List.mem_cons_self, List.forall_mem_cons.2
            ⟨List.lt_irrefl u, fun x hx => not_lt_trans hu (hleast x hx)⟩⟩
      obtain ⟨s, hs, hmem, hall⟩ := hmin
      simp only [hs, Option.some.injEq]
      constructor
      · rintro rfl
        exact ⟨hmem, hall⟩
      · rintro ⟨ht, hbelow⟩
        exact List.le_antisymm (hall t ht) (hbelow s hmem)

/-! ## 2. Building -/

/-- A mapping is built exactly if all names are identifiers. -/
theorem build_eq_ok_iff :
    vs.build = .ok m ↔ (∀ n ∈ vs.merged.keys, Text.isName n = true) ∧ m = vs.merged := by
  unfold build
  cases hl : least? (vs.merged.keys.filter fun n => !Text.isName n) with
  | some n =>
    obtain ⟨hmem, -⟩ := least?_eq_some_iff.1 hl
    obtain ⟨hkey, hbad⟩ := List.mem_filter.1 hmem
    simp only [reduceCtorEq, false_iff, not_and]
    intro hnames
    simp [hnames n hkey] at hbad
  | none =>
    have hnames := List.filter_eq_nil_iff.1 (least?_eq_none_iff.1 hl)
    simp only [Bool.not_eq_true', Bool.not_eq_false] at hnames
    simp only [Except.ok.injEq, eq_comm (a := m), iff_and_self]
    exact fun _ => hnames

/-- The name that is reported is the smallest of those that are no identifiers. -/
theorem build_eq_error_iff {e : Failure} :
    vs.build = .error e ↔ ∃ n, e = .badVariable n ∧ (n ∈ vs.merged.keys ∧ Text.isName n = false) ∧
      ∀ m ∈ vs.merged.keys, Text.isName m = false → ¬ m < n := by
  have hleast : ∀ n, least? (vs.merged.keys.filter fun n => !Text.isName n) = some n ↔
      (n ∈ vs.merged.keys ∧ Text.isName n = false) ∧
        ∀ m ∈ vs.merged.keys, Text.isName m = false → ¬ m < n := by
    intro n
    simp only [least?_eq_some_iff, List.mem_filter, Bool.not_eq_true', and_imp]
  simp only [← hleast]
  unfold build
  cases least? (vs.merged.keys.filter fun n => !Text.isName n) <;> simp [eq_comm]

theorem badName?_of_build (h : vs.build = .ok m) : m.badName? = Option.none :=
  Template.badName?_eq_none_iff.2 (isName_of_build h)

/-! ## 3. Calls -/

/-- The entries of an environment whose keys have the common start, which is left out. -/
def stripped (es : List (Text × Text)) : List (Text × Text) :=
  (es.filter fun e => ambientStart.isPrefixOf e.1).map fun e => (e.1.drop ambientStart.length, e.2)

inductive Call where
  | environment (entries : List (Text × Text))
  | pairs (entries : List (Text × Text))

namespace Call

def apply (vs : Variables) : Call → Variables
  | environment es => vs.addEnvironment es
  | pairs es => vs.addPairs es

def isEnvironment : Call → Bool
  | environment _ => true
  | pairs _ => false

def fromEnvironment : Call → List (Text × Text)
  | environment es => stripped es
  | pairs _ => []

def explicit : Call → List (Text × Text)
  | environment _ => []
  | pairs es => es

end Call

def collect (calls : List Call) : Variables :=
  calls.foldl Call.apply none

def fromEnvironment (calls : List Call) : List (Text × Text) :=
  calls.flatMap Call.fromEnvironment

def explicitly (calls : List Call) : List (Text × Text) :=
  calls.flatMap Call.explicit

theorem filterMap_ambient? (es : List (Text × Text)) : es.filterMap ambient? = stripped es := by
  unfold stripped
  induction es with
  | nil => rfl
  | cons e es ih =>
    by_cases hstart : ambientStart <+: e.1
    · obtain ⟨name, hname⟩ := hstart
      have hafter : Text.after? ambientStart e.1 = some name :=
        Text.after?_eq_some_iff.2 hname.symm
      have hprefix : ambientStart.isPrefixOf e.1 = true :=
        List.isPrefixOf_iff_prefix.2 ⟨name, hname⟩
      rw [List.filterMap_cons_some (b := (name, e.2)) (by rw [ambient?, hafter]; rfl),
        List.filter_cons, if_pos hprefix, List.map_cons, ih, ← hname, List.drop_left]
    · have hafter : Text.after? ambientStart e.1 = Option.none := Text.after?_eq_none_iff.2 hstart
      have hprefix : ¬ ambientStart.isPrefixOf e.1 = true :=
        fun h => hstart (List.isPrefixOf_iff_prefix.1 h)
      rw [List.filterMap_cons_none (by rw [ambient?, hafter]; rfl),
        List.filter_cons, if_neg hprefix, ih]

/-- A call stores its entries on the side it belongs to. -/
theorem apply_eq (vs : Variables) (c : Call) :
    c.apply vs = ⟨vs.ambient.insertAll c.fromEnvironment, vs.explicit.insertAll c.explicit⟩ := by
  cases c with
  | environment es =>
    show (⟨vs.ambient.insertAll (es.filterMap ambient?), vs.explicit⟩ : Variables) = _
    rw [filterMap_ambient?]
    rfl
  | pairs es => rfl

/-- Each side is told by the calls that add to it. -/
theorem collect_eq (calls : List Call) :
    collect calls = ⟨.ofList (fromEnvironment calls), .ofList (explicitly calls)⟩ := by
  have key : ∀ vs : Variables, calls.foldl Call.apply vs =
      ⟨vs.ambient.insertAll (fromEnvironment calls), vs.explicit.insertAll (explicitly calls)⟩ := by
    induction calls with
    | nil => exact fun _ => rfl
    | cons c calls ih =>
      intro vs
      rw [List.foldl_cons, ih, apply_eq]
      simp only [fromEnvironment, explicitly, List.flatMap_cons, OrderedMap.insertAll_append]
  exact key none

/-- The calls that do not add to a side need not be there for it. -/
theorem flatMap_filter {p : Call → Bool} {f : Call → List (Text × Text)}
    (h : ∀ c, p c = false → f c = []) (calls : List Call) :
    (calls.filter p).flatMap f = calls.flatMap f := by
  induction calls with
  | nil => rfl
  | cons c calls ih =>
    cases hp : p c with
    | true => rw [List.filter_cons_of_pos hp, List.flatMap_cons, List.flatMap_cons, ih]
    | false =>
      rw [List.filter_cons_of_neg (by simp [hp]), List.flatMap_cons, h c hp, ih, List.nil_append]

/-- Calls of one side may be moved among those of the other. -/
theorem collect_congr {calls calls' : List Call}
    (henv : calls'.filter Call.isEnvironment = calls.filter Call.isEnvironment)
    (hpairs : (calls'.filter fun c => !c.isEnvironment) = calls.filter fun c => !c.isEnvironment) :
    collect calls' = collect calls := by
  have hfrom : fromEnvironment calls' = fromEnvironment calls := by
    have hnone : ∀ c : Call, c.isEnvironment = false → c.fromEnvironment = [] := by
      rintro (es | es) hc
      · cases hc
      · rfl
    rw [fromEnvironment, fromEnvironment, ← flatMap_filter hnone calls', henv, flatMap_filter hnone]
  have hexplicit : explicitly calls' = explicitly calls := by
    have hnone : ∀ c : Call, (!c.isEnvironment) = false → c.explicit = [] := by
      rintro (es | es) hc
      · rfl
      · cases hc
    rw [explicitly, explicitly, ← flatMap_filter hnone calls', hpairs, flatMap_filter hnone]
  rw [collect_eq, collect_eq, hfrom, hexplicit]

/-! ## 4. What was collected -/

theorem mem_keys_merged {calls : List Call} :
    n ∈ (collect calls).merged.keys ↔
      n ∈ Entries.keys (explicitly calls) ∨ n ∈ Entries.keys (fromEnvironment calls) := by
  rw [collect_eq, merged, OrderedMap.mem_keys_insertAll, OrderedMap.mem_keys_ofList, or_comm]
  show n ∈ (OrderedMap.ofList _).keys ∨ _ ↔ _
  rw [OrderedMap.mem_keys_ofList]

theorem get?_merged (calls : List Call) (k : Text) :
    (collect calls).merged.get? k =
      (Entries.last? k (explicitly calls)).or (Entries.last? k (fromEnvironment calls)) := by
  rw [collect_eq, merged, OrderedMap.get?_insertAll, OrderedMap.last?_entries, OrderedMap.get?_ofList,
    OrderedMap.get?_ofList]

end Variables

/-! ## 5. Mappings of identifiers -/

section

variable {v : Version} {vars : Bindings} {look : Lookup} {s : Text} {e : Failure} {n : Text}

/-- Without a bad name in the mapping, no name is refused. -/
theorem ne_badName_of_inject (h : vars.badName? = none) {t : Template} {f : Fault}
    (hi : t.inject vars = .error f) (n : Text) : f ≠ .badName n := by
  rintro rfl
  rcases Template.fault_of_inject hi with ⟨m, hm, -⟩ | ⟨m, hm⟩ | ⟨p, -, hp⟩
  · cases h.symm.trans hm
  · cases hm
  · cases hp

theorem Failure.ofUsage_eq_badVariable_iff {f : Fault} :
    Failure.ofUsage f = .badVariable n ↔ f = .badName n := by
  cases f <;> simp [Failure.ofUsage]

/-- A mapping of identifiers never makes a text fail for a variable's name; only a source can. -/
theorem exists_look_of_inject (h : vars.badName? = none)
    (hi : (inject v vars look s).outcome = .error (.badVariable n)) :
    ∃ p, look p = .error (.badVariable n) := by
  cases hneeds : Template.needs v vars s with
  | error e =>
    rw [Template.inject_of_needs_error hneeds] at hi
    obtain rfl := Except.error.inj hi
    unfold Template.needs at hneeds
    cases hp : Template.parse v s with
    | error f => simp only [hp] at hneeds; cases hneeds
    | ok t =>
      cases ht : t.inject vars with
      | error f =>
        simp only [hp, ht] at hneeds
        have hf := Failure.ofUsage_eq_badVariable_iff.1 (Except.error.inj hneeds)
        exact absurd hf (ne_badName_of_inject h ht n)
      | ok t' => simp only [hp, ht] at hneeds; cases hneeds
  | ok ps =>
    obtain ⟨t, -, -, hask⟩ := Template.inject_of_needs_ok look hneeds
    rw [hask, outcome_ask_eq_error_iff] at hi
    obtain ⟨p, -, hp⟩ := hi.exists_mem
    exact ⟨p, hp⟩

/-- Neither does it make an env file fail. -/
theorem exists_look_of_injectFile (h : vars.badName? = none)
    (hi : (injectFile v vars look s).outcome = .error (.badVariable n)) :
    ∃ p, look p = .error (.badVariable n) := by
  cases hneeds : EnvFile.needs v vars s with
  | error e =>
    rw [EnvFile.injectFile_of_needs_error hneeds] at hi
    obtain rfl := Except.error.inj hi
    unfold EnvFile.needs at hneeds
    cases hp : EnvFile.parse v s with
    | error f => simp only [hp] at hneeds; cases hneeds
    | ok file =>
      cases hfile : file.inject vars with
      | error f =>
        simp only [hp, hfile] at hneeds
        have hf := Failure.ofUsage_eq_badVariable_iff.1 (Except.error.inj hneeds)
        obtain ⟨t, -, ht⟩ := EnvFile.fault_of_inject hfile
        exact absurd hf (ne_badName_of_inject h ht n)
      | ok file' => simp only [hp, hfile] at hneeds; cases hneeds
  | ok ps =>
    obtain ⟨file, -, -, hask⟩ := EnvFile.injectFile_of_needs_ok look hneeds
    rw [hask, outcome_ask_eq_error_iff] at hi
    obtain ⟨p, -, hp⟩ := hi.exists_mem
    exact ⟨p, hp⟩

end

namespace Variables

/-! ## 6. The outcome of calls -/

/-- What comes of collecting values by calls in any order. A mapping is built exactly when every name
that was given is an identifier. It holds these names and no other, each with its last explicit value
or else with its last value from an environment; no template is refused for a name in it, and neither
text nor env file fails for one, unless the source itself says so. Otherwise the smallest name that
is no identifier is reported. Calls that give the environment's values may be moved among those that
give explicit ones. -/
theorem build_collect (calls : List Call) :
    let names := Entries.keys (explicitly calls) ++ Entries.keys (fromEnvironment calls)
    ((∃ m, (collect calls).build = .ok m) ↔ ∀ n ∈ names, Text.isName n = true) ∧
    (∀ m, (collect calls).build = .ok m →
      (∀ n, n ∈ m.keys ↔ n ∈ names) ∧
      (∀ n, m.get? n =
        (Entries.last? n (explicitly calls)).or (Entries.last? n (fromEnvironment calls))) ∧
      (∀ (t : Template) n, t.inject m ≠ .error (.badName n)) ∧
      ∀ v look s n,
        ((inject v m look s).outcome = .error (.badVariable n) →
          ∃ p, look p = .error (.badVariable n)) ∧
        ((injectFile v m look s).outcome = .error (.badVariable n) →
          ∃ p, look p = .error (.badVariable n))) ∧
    (∀ e, (collect calls).build = .error e ↔
      ∃ n ∈ names, e = .badVariable n ∧ Text.isName n = false ∧
        ∀ m ∈ names, Text.isName m = false → ¬ m < n) ∧
    ∀ calls' : List Call,
      calls'.filter Call.isEnvironment = calls.filter Call.isEnvironment →
      (calls'.filter fun c => !c.isEnvironment) = (calls.filter fun c => !c.isEnvironment) →
      (collect calls').build = (collect calls).build := by
  intro names
  have hnames : ∀ n, n ∈ (collect calls).merged.keys ↔ n ∈ names := by
    intro n
    rw [mem_keys_merged, List.mem_append]
  refine ⟨?_, ?_, ?_, ?_⟩
  · simp only [build_eq_ok_iff, exists_eq_right, hnames]
  · intro m hm
    -- what was built has no bad name, so nothing later can report one
    have hgood := badName?_of_build hm
    obtain rfl := (build_eq_ok_iff.1 hm).2
    refine ⟨hnames, get?_merged calls, ?_, ?_⟩
    · intro t n hi
      exact ne_badName_of_inject hgood hi n rfl
    · intro v look s n
      exact ⟨exists_look_of_inject hgood, exists_look_of_injectFile hgood⟩
  · intro e
    simp only [build_eq_error_iff, hnames]
    constructor
    · rintro ⟨n, rfl, ⟨hmem, hbad⟩, hleast⟩
      exact ⟨n, hmem, rfl, hbad, hleast⟩
    · rintro ⟨n, hmem, rfl, hbad, hleast⟩
      exact ⟨n, rfl, ⟨hmem, hbad⟩, hleast⟩
  · intro calls' henv hpairs
    rw [collect_congr henv hpairs]

-- the explicit value counts although the environment comes later, and has a second value for the name
example : (collect [.pairs [("a".toList, "1".toList)],
      .environment [("SECRETINJECT_VAR_a".toList, "2".toList), ("HOME".toList, "/".toList)],
      .environment [("SECRETINJECT_VAR_b".toList, "3".toList)]]).build.map OrderedMap.entries =
    .ok [("a".toList, "1".toList), ("b".toList, "3".toList)] := by rfl

end Variables

end SecretWeave
