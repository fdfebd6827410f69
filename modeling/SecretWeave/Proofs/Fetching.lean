import SecretWeave.Inject
import SecretWeave.Proofs.Traversal

/-!
# What fetching asks for

Paths are asked for one after the other. Either all have values, and these are what is fetched, or
the asking ends with the first path that has none. A step after the fetching that needs no more than
what was fetched comes down to asking (`fetch_andThen_eq_ask`), and what is asked for is what can be
reached without passing a path that lacks a value (`mem_asked_ask_iff`).
-/

namespace SecretWeave

/-- The value of a path at a source, which is empty for a path without one. -/
def Lookup.value (look : Lookup) (path : Text) : Bytes :=
  match look path with
  | .ok b => b
  | .error _ => []

def Lookup.Has (look : Lookup) (path : Text) : Prop :=
  ∃ b, look path = .ok b

theorem Lookup.value_eq {look : Lookup} {p : Text} {b : Bytes} (h : look p = .ok b) :
    look.value p = b := by
  unfold Lookup.value
  rw [h]

/-! ## 1. Fetching into a map -/

/-- Paths that all have values are fetched with these values. -/
theorem fetchInto_of_has {look : Lookup} {ps : List Text} (h : ∀ p ∈ ps, look.Has p)
    (m : Secrets) : ∃ values, fetchInto look m ps = ⟨ps, .ok values⟩ ∧
      ∀ q, values.get? q = if q ∈ ps then some (look.value q) else m.get? q := by
  induction ps generalizing m with
  | nil => exact ⟨m, rfl, by simp⟩
  | cons p ps ih =>
    obtain ⟨b, hb⟩ := h p (by simp)
    obtain ⟨values, hfetch, hget⟩ := ih (fun q hq => h q (by simp [hq])) (m.insert p b)
    refine ⟨values, ?_, ?_⟩
    · rw [fetchInto, hb]
      simp only [hfetch]
    · intro q
      rw [hget q]
      -- a path that is asked for again later gets the same value again
      by_cases hqs : q ∈ ps
      · simp [hqs]
      · by_cases hq : q = p
        · simp [hq, Lookup.value_eq hb]
        · simp [hqs, hq, OrderedMap.get?_insert_of_ne]

/-- Fetching stops at the first path without a value. -/
theorem fetchInto_of_refused {look : Lookup} {before after : List Text} {p : Text} {e : Failure}
    (hbefore : ∀ q ∈ before, look.Has q) (hp : look p = .error e) (m : Secrets) :
    fetchInto look m (before ++ p :: after) = ⟨before ++ [p], .error e⟩ := by
  induction before generalizing m with
  | nil =>
    rw [List.nil_append, fetchInto, hp]
    rfl
  | cons q before ih =>
    obtain ⟨b, hb⟩ := hbefore q (by simp)
    have hrest := ih (fun x hx => hbefore x (by simp [hx])) (m.insert q b)
    rw [List.cons_append, fetchInto, hb]
    simp only [hrest]
    rfl

/-! ## 2. Fetching -/

/-- When all paths have values, all are asked for, and their values are what is fetched. -/
theorem fetch_of_has {look : Lookup} {ps : List Text} (h : ∀ p ∈ ps, look.Has p) :
    ∃ values, fetch look ps = ⟨ps, .ok values⟩ ∧
      ∀ p ∈ ps, values.get? p = some (look.value p) := by
  obtain ⟨values, hfetch, hget⟩ := fetchInto_of_has h ∅
  refine ⟨values, hfetch, ?_⟩
  intro p hp
  rw [hget p, if_pos hp]

/-- Otherwise the first path without a value is the last one asked for. -/
theorem fetch_of_refused {look : Lookup} {before after : List Text} {p : Text} {e : Failure}
    (hbefore : ∀ q ∈ before, look.Has q) (hp : look p = .error e) :
    fetch look (before ++ p :: after) = ⟨before ++ [p], .error e⟩ :=
  fetchInto_of_refused hbefore hp ∅

/-! ## 3. Asking -/

variable {α : Type} {look : Lookup} {ps : List Text}

/-- Asks for paths one after the other and answers with `a` once all of them have values. -/
def Lookup.ask (look : Lookup) (paths : List Text) (a : α) : Answer α :=
  (fetch look paths).andThen fun _ => .ok a

theorem ask_of_has (h : ∀ p ∈ ps, look.Has p) (a : α) : look.ask ps a = ⟨ps, .ok a⟩ := by
  obtain ⟨values, hfetch, -⟩ := fetch_of_has h
  rw [Lookup.ask, hfetch]
  rfl

theorem ask_of_refused {before after : List Text} {p : Text} {e : Failure}
    (hbefore : ∀ q ∈ before, look.Has q) (hp : look p = .error e) (a : α) :
    look.ask (before ++ p :: after) a = ⟨before ++ [p], .error e⟩ := by
  rw [Lookup.ask, fetch_of_refused hbefore hp]
  rfl

/-- A step that succeeds with the values of the paths at the source adds no more than its result. -/
theorem fetch_andThen_eq_ask {finish : Secrets → Except Failure α} {a : α}
    (h : ∀ values : Secrets, (∀ p ∈ ps, values.get? p = some (look.value p)) →
      finish values = .ok a) : (fetch look ps).andThen finish = look.ask ps a := by
  rcases all_ok_or_refusedAt look ps with hps | ⟨e, before, p, after, rfl, hbefore, hp⟩
  · obtain ⟨values, hfetch, hvalues⟩ := fetch_of_has hps
    rw [ask_of_has hps, hfetch]
    show (⟨ps, finish values⟩ : Answer α) = ⟨ps, .ok a⟩
    rw [h values hvalues]
  · -- the step is never reached
    rw [ask_of_refused hbefore hp, fetch_of_refused hbefore hp]
    rfl

/-- Asking succeeds exactly if every path has a value. -/
theorem outcome_ask_eq_ok_iff {a b : α} :
    (look.ask ps a).outcome = .ok b ↔ (∀ p ∈ ps, look.Has p) ∧ b = a := by
  rcases all_ok_or_refusedAt look ps with hps | ⟨e, before, p, after, rfl, hbefore, hp⟩
  · rw [ask_of_has hps]
    simp only [Except.ok.injEq, eq_comm]
    exact ⟨fun h => ⟨hps, h⟩, And.right⟩
  · rw [ask_of_refused hbefore hp]
    constructor
    · intro h
      cases h
    · rintro ⟨h, -⟩
      obtain ⟨v, hv⟩ := h p (by simp)
      rw [hp] at hv
      cases hv

/-- Asking fails with what the first path without a value fails with. -/
theorem outcome_ask_eq_error_iff {a : α} {e : Failure} :
    (look.ask ps a).outcome = .error e ↔ RefusedAt look ps e := by
  rcases all_ok_or_refusedAt look ps with hps | ⟨e', h⟩
  · rw [ask_of_has hps]
    constructor
    · intro h
      cases h
    · intro h
      obtain ⟨p, hp, he⟩ := h.exists_mem
      obtain ⟨b, hb⟩ := hps p hp
      rw [he] at hb
      cases hb
  · -- both tell the first refusal, which is the same
    have hmap : (look.ask ps a).outcome = .error e' ∧ ps.mapM look = .error e' := by
      refine ⟨?_, mapM_eq_error_iff.2 h⟩
      obtain ⟨before, p, after, rfl, hbefore, hp⟩ := h
      rw [ask_of_refused hbefore hp]
    rw [← mapM_eq_error_iff, hmap.1, hmap.2]
    simp

/-! ## 4. What is reached -/

/-- The paths that are asked for when a list is gone through: those with nothing before them that
lacks a value. -/
def Lookup.Reaches (look : Lookup) (paths : List Text) (p : Text) : Prop :=
  ∃ before after, paths = before ++ p :: after ∧ ∀ q ∈ before, look.Has q

variable {p q : Text}

/-- A path behind another one is reached if that one has a value. -/
theorem reaches_cons_iff :
    look.Reaches (q :: ps) p ↔ p = q ∨ look.Has q ∧ look.Reaches ps p := by
  constructor
  · rintro ⟨before, after, h, hbefore⟩
    cases before with
    | nil => exact .inl (List.cons.inj h).1.symm
    | cons x before =>
      obtain ⟨rfl, rfl⟩ := List.cons.inj h
      obtain ⟨hq, hbefore⟩ := List.forall_mem_cons.1 hbefore
      exact .inr ⟨hq, before, after, rfl, hbefore⟩
  · rintro (rfl | ⟨hq, before, after, rfl, hbefore⟩)
    · exact ⟨[], ps, rfl, by simp⟩
    · exact ⟨q :: before, after, rfl, List.forall_mem_cons.2 ⟨hq, hbefore⟩⟩

/-- The paths that are asked for are those that are reached. -/
theorem mem_asked_fetchInto (m : Secrets) :
    p ∈ (fetchInto look m ps).asked ↔ look.Reaches ps p := by
  induction ps generalizing m with
  | nil => simp [fetchInto, Lookup.Reaches]
  | cons q ps ih =>
    rw [reaches_cons_iff, fetchInto, Lookup.Has]
    cases hq : look q with
    | error e => simp
    | ok b => simp [ih]

theorem mem_asked_ask_iff {a : α} : p ∈ (look.ask ps a).asked ↔ look.Reaches ps p :=
  mem_asked_fetchInto ∅

theorem refusedAt_iff_reaches {e : Failure} :
    RefusedAt look ps e ↔ ∃ p, look.Reaches ps p ∧ look p = .error e := by
  constructor
  · rintro ⟨before, p, after, h, hbefore, hp⟩
    exact ⟨p, ⟨before, after, h, hbefore⟩, hp⟩
  · rintro ⟨p, ⟨before, after, h, hbefore⟩, hp⟩
    exact ⟨before, p, after, h, hbefore, hp⟩

/-- A path that has a value may be left out without changing what else is reached. -/
theorem reaches_filter_ne (hq : look.Has q) (hp : p ≠ q) :
    look.Reaches (ps.filter (· ≠ q)) p ↔ look.Reaches ps p := by
  induction ps with
  | nil => rfl
  | cons x ps ih =>
    by_cases hx : x = q
    · simp [hx, reaches_cons_iff, hp, hq, ← ih]
    · simp [hx, reaches_cons_iff, ← ih]

/-- Repetitions change nothing about what is reached. -/
theorem reaches_distinct_iff : look.Reaches (distinct ps) p ↔ look.Reaches ps p := by
  induction ps with
  | nil => rfl
  | cons q ps ih =>
    rw [distinct, reaches_cons_iff, reaches_cons_iff]
    by_cases hp : p = q
    · simp [hp]
    · -- what is left out was passed before, so it has a value
      simp only [hp, false_or]
      exact and_congr_right fun hq => (reaches_filter_ne hq hp).trans ih

/-- What is reached in joined lists is reached in one of them alone. -/
theorem exists_reaches_of_flatMap {β : Type} {g : β → List Text} {l : List β}
    (h : look.Reaches (l.flatMap g) p) : ∃ b ∈ l, look.Reaches (g b) p := by
  obtain ⟨before, after, hl, hbefore⟩ := h
  induction l generalizing before with
  | nil => simp at hl
  | cons b l ih =>
    rw [List.flatMap_cons, List.append_eq_append_iff] at hl
    rcases hl with ⟨mid, rfl, hrest⟩ | ⟨mid, hb, hrest⟩
    · -- the path comes after all that belongs to `b`
      obtain ⟨c, hc, hreach⟩ := ih mid hrest fun q hq => hbefore q (by simp [hq])
      exact ⟨c, List.mem_cons_of_mem b hc, hreach⟩
    · cases mid with
      | nil =>
        obtain ⟨c, hc, hreach⟩ := ih [] hrest.symm (by simp)
        exact ⟨c, List.mem_cons_of_mem b hc, hreach⟩
      | cons x mid =>
        obtain ⟨rfl, -⟩ := List.cons.inj hrest
        exact ⟨b, List.mem_cons_self, before, mid, hb, hbefore⟩

end SecretWeave
