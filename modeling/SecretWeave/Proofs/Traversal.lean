import Mathlib.Data.List.Forall2

/-!
# Checked traversals

A list is gone through with a function that may refuse an element. The traversal succeeds exactly
when no element is refused, and else it ends with what the first refused element is refused for.
-/

namespace SecretWeave

variable {α β ε : Type}

/-- What can be said of a result shows that there is one. -/
theorem exists_ok_of_toOption {x : Except ε α} {f : α → β} {b : β}
    (h : x.toOption.map f = some b) : ∃ a, x = .ok a ∧ f a = b := by
  cases x with
  | ok a => exact ⟨a, rfl, Option.some.inj h⟩
  | error e => cases h

/-- The elements before the first one that a checked function refuses, and the refusal. -/
def RefusedAt (f : α → Except ε β) (l : List α) (e : ε) : Prop :=
  ∃ before a after, l = before ++ a :: after ∧ (∀ x ∈ before, ∃ y, f x = .ok y) ∧ f a = .error e

theorem RefusedAt.cons {f : α → Except ε β} {a : α} {l : List α} {b : β} {e : ε}
    (h : RefusedAt f l e) (ha : f a = .ok b) : RefusedAt f (a :: l) e := by
  obtain ⟨before, c, after, rfl, hbefore, hc⟩ := h
  exact ⟨a :: before, c, after, rfl, List.forall_mem_cons.2 ⟨⟨b, ha⟩, hbefore⟩, hc⟩

theorem refusedAt_congr {γ : Type} {f : α → Except ε β} {g : α → Except ε γ} {l : List α} {e : ε}
    (hok : ∀ a, (∃ y, f a = .ok y) ↔ ∃ y, g a = .ok y)
    (herr : ∀ a, f a = .error e ↔ g a = .error e) : RefusedAt f l e ↔ RefusedAt g l e := by
  simp only [RefusedAt, hok, herr]

theorem refusedAt_map {γ : Type} {f : α → Except ε β} {g : γ → α} {l : List γ} {e : ε} :
    RefusedAt f (l.map g) e ↔ RefusedAt (fun c => f (g c)) l e := by
  constructor
  · rintro ⟨before, a, after, hl, hbefore, ha⟩
    obtain ⟨before, rest, rfl, rfl, hrest⟩ := List.map_eq_append_iff.1 hl
    obtain ⟨c, after, rfl, rfl, rfl⟩ := List.map_eq_cons_iff.1 hrest
    exact ⟨before, c, after, rfl, fun x hx => hbefore _ (List.mem_map_of_mem hx), ha⟩
  · rintro ⟨before, c, after, rfl, hbefore, hc⟩
    refine ⟨before.map g, g c, after.map g, by simp, ?_, hc⟩
    intro x hx
    obtain ⟨y, hy, rfl⟩ := List.mem_map.1 hx
    exact hbefore y hy

/-- Either every element is accepted, or there is a first that is refused. -/
theorem all_ok_or_refusedAt (f : α → Except ε β) (l : List α) :
    (∀ a ∈ l, ∃ b, f a = .ok b) ∨ ∃ e, RefusedAt f l e := by
  induction l with
  | nil => exact .inl (by simp)
  | cons a l ih =>
    -- the head is refused, or the tail decides
    cases ha : f a with
    | error e => exact .inr ⟨e, [], a, l, rfl, by simp, ha⟩
    | ok b =>
      rcases ih with h | ⟨e, h⟩
      · exact .inl (List.forall_mem_cons.2 ⟨⟨b, ha⟩, h⟩)
      · exact .inr ⟨e, h.cons ha⟩

theorem RefusedAt.exists_mem {f : α → Except ε β} {l : List α} {e : ε} (h : RefusedAt f l e) :
    ∃ a ∈ l, f a = .error e := by
  obtain ⟨before, a, after, rfl, -, ha⟩ := h
  exact ⟨a, by simp, ha⟩

theorem mapM_cons_ok {f : α → Except ε β} {a : α} {l : List α} {b : β} {r : List β}
    (ha : f a = .ok b) (hl : l.mapM f = .ok r) : (a :: l).mapM f = .ok (b :: r) := by
  rw [List.mapM_cons, ha, hl]
  rfl

theorem mapM_cons_error_head {f : α → Except ε β} {a : α} {l : List α} {e : ε}
    (ha : f a = .error e) : (a :: l).mapM f = .error e := by
  rw [List.mapM_cons, ha]
  rfl

theorem mapM_cons_error_tail {f : α → Except ε β} {a : α} {l : List α} {b : β} {e : ε}
    (ha : f a = .ok b) (hl : l.mapM f = .error e) : (a :: l).mapM f = .error e := by
  rw [List.mapM_cons, ha, hl]
  rfl

theorem mapM_cons_map {f : α → Except ε β} {a : α} {b : β} (ha : f a = .ok b) (l : List α) :
    (a :: l).mapM f = (l.mapM f).map (b :: ·) := by
  cases hl : l.mapM f with
  | error e => rw [mapM_cons_error_tail ha hl, Except.map]
  | ok r => rw [mapM_cons_ok ha hl, Except.map]

theorem mapM_append_map {f : α → Except ε β} {l : List α} {r : List β} (hl : l.mapM f = .ok r)
    (l' : List α) : (l ++ l').mapM f = (l'.mapM f).map (r ++ ·) := by
  rw [List.mapM_append, hl]
  cases l'.mapM f <;> rfl

/-- A function whose refusals are put otherwise is refused otherwise. -/
theorem mapM_mapError {ε' : Type} {f : α → Except ε β} {g : α → Except ε' β} {m : ε → ε'}
    {l : List α} (h : ∀ a ∈ l, g a = (f a).mapError m) : l.mapM g = (l.mapM f).mapError m := by
  induction l with
  | nil => rfl
  | cons a l ih =>
    have ha := h a List.mem_cons_self
    have hl := ih fun x hx => h x (List.mem_cons_of_mem a hx)
    cases hfa : f a with
    | error e =>
      rw [hfa] at ha
      rw [mapM_cons_error_head hfa, mapM_cons_error_head ha, Except.mapError]
    | ok b =>
      rw [hfa] at ha
      rw [mapM_cons_map hfa, mapM_cons_map ha, hl]
      cases l.mapM f <;> rfl

/-- Mapping in turn succeeds exactly if each element is mapped. -/
theorem mapM_eq_ok_iff {f : α → Except ε β} {l : List α} {r : List β} :
    l.mapM f = .ok r ↔ List.Forall₂ (fun a b => f a = .ok b) l r := by
  induction l generalizing r with
  | nil =>
    rw [List.mapM_nil, List.forall₂_nil_left_iff]
    constructor
    · intro h
      exact (Except.ok.inj h).symm
    · intro h
      rw [h]
      rfl
  | cons a l ih =>
    rw [List.forall₂_cons_left_iff]
    cases ha : f a with
    | error e =>
      rw [mapM_cons_error_head ha]
      simp
    | ok b =>
      cases hl : l.mapM f with
      | error e =>
        rw [mapM_cons_error_tail ha hl]
        simp [← ih, hl]
      | ok bs =>
        rw [mapM_cons_ok ha hl]
        simp [← ih, hl, eq_comm]

/-- Mapping in turn succeeds exactly if no element is refused. -/
theorem exists_mapM_iff {f : α → Except ε β} {l : List α} :
    (∃ r, l.mapM f = .ok r) ↔ ∀ a ∈ l, ∃ b, f a = .ok b := by
  simp only [mapM_eq_ok_iff]
  induction l with
  | nil => simp
  | cons a l ih =>
    rw [List.forall_mem_cons, ← ih]
    simp only [List.forall₂_cons_left_iff]
    constructor
    · rintro ⟨-, b, r, ha, hl, rfl⟩
      exact ⟨⟨b, ha⟩, r, hl⟩
    · rintro ⟨⟨b, ha⟩, r, hl⟩
      exact ⟨b :: r, b, r, ha, hl, rfl⟩

/-- A traversal fails exactly with the refusal of the first element that is refused. -/
theorem mapM_eq_error_iff {f : α → Except ε β} {l : List α} {e : ε} :
    l.mapM f = .error e ↔ RefusedAt f l e := by
  induction l with
  | nil =>
    rw [List.mapM_nil]
    simp [RefusedAt, pure, Except.pure]
  | cons a l ih =>
    constructor
    · intro h
      -- the refusal is that of the head, or the head is passed and it is that of the tail
      cases ha : f a with
      | error e' =>
        rw [mapM_cons_error_head ha] at h
        obtain rfl := Except.error.inj h
        exact ⟨[], a, l, rfl, by simp, ha⟩
      | ok b =>
        have hl : l.mapM f = .error e := by
          cases hl : l.mapM f with
          | ok bs => rw [mapM_cons_ok ha hl] at h; cases h
          | error e' => rwa [mapM_cons_error_tail ha hl] at h
        exact (ih.1 hl).cons ha
    · rintro ⟨before, c, after, hl, hbefore, hc⟩
      cases before with
      | nil =>
        obtain ⟨rfl, rfl⟩ := List.cons.inj hl
        exact mapM_cons_error_head hc
      | cons x before =>
        obtain ⟨rfl, rfl⟩ := List.cons.inj hl
        obtain ⟨b, ha⟩ := hbefore a (by simp)
        exact mapM_cons_error_tail ha <| ih.2
          ⟨before, c, after, rfl, fun y hy => hbefore y (by simp [hy]), hc⟩

/-- Of joined lists, the second is refused only behind a first that is accepted. -/
theorem refusedAt_append_iff {f : α → Except ε β} {l l' : List α} {e : ε} :
    RefusedAt f (l ++ l') e ↔ RefusedAt f l e ∨ (∀ a ∈ l, ∃ b, f a = .ok b) ∧ RefusedAt f l' e := by
  rw [← mapM_eq_error_iff, ← mapM_eq_error_iff, ← mapM_eq_error_iff, ← exists_mapM_iff]
  cases hl : l.mapM f with
  | error e' =>
    have happend : (l ++ l').mapM f = .error e' := by
      rw [List.mapM_append, hl]
      rfl
    simp [happend]
  | ok r =>
    rw [mapM_append_map hl]
    cases l'.mapM f <;> simp [Except.map]

/-- Where each element is refused for the first refused of its parts, a list is refused for the
first refused of all parts. -/
theorem refusedAt_flatMap_iff {γ δ : Type} {f : α → Except ε β} {g : γ → Except ε δ}
    {parts : α → List γ} (h : ∀ a e, f a = .error e ↔ RefusedAt g (parts a) e) (l : List α)
    {e : ε} : RefusedAt f l e ↔ RefusedAt g (l.flatMap parts) e := by
  -- an element is accepted where all its parts are
  have hok : ∀ a, (∃ b, f a = .ok b) ↔ ∀ c ∈ parts a, ∃ d, g c = .ok d := by
    intro a
    rw [← exists_mapM_iff]
    cases ha : f a with
    | error e' => simp [mapM_eq_error_iff.2 ((h a e').1 ha)]
    | ok b =>
      cases hparts : (parts a).mapM g with
      | error e' => cases ha.symm.trans ((h a e').2 (mapM_eq_error_iff.1 hparts))
      | ok r => simp
  induction l with
  | nil => simp [RefusedAt]
  | cons a l ih =>
    have hone : RefusedAt f [a] e ↔ f a = .error e := by
      rw [← mapM_eq_error_iff, List.mapM_cons, List.mapM_nil]
      cases f a <;> simp [bind, Except.bind, pure, Except.pure]
    rw [List.flatMap_cons, refusedAt_append_iff, ← h, ← hok, ← List.singleton_append,
      refusedAt_append_iff, hone]
    simp only [List.forall_mem_singleton, ih]

/-- A function whose success on a list is told by a condition succeeds under that condition. -/
theorem mapM_eq_ok_iff_map {f : α → Except ε β} {good : α → Prop} {g : α → β} {l : List α}
    (hf : ∀ a ∈ l, ∀ b, f a = .ok b ↔ good a ∧ g a = b) {r : List β} :
    l.mapM f = .ok r ↔ (∀ a ∈ l, good a) ∧ r = l.map g := by
  rw [mapM_eq_ok_iff]
  induction l generalizing r with
  | nil => simp
  | cons a l ih =>
    have hl := fun r => ih (r := r) fun x hx => hf x (List.mem_cons_of_mem a hx)
    simp only [List.forall₂_cons_left_iff, hf a List.mem_cons_self, hl, List.forall_mem_cons,
      List.map_cons]
    constructor
    · rintro ⟨b, bs, ⟨ha, rfl⟩, ⟨hgood, rfl⟩, rfl⟩
      exact ⟨⟨ha, hgood⟩, rfl⟩
    · rintro ⟨⟨ha, hgood⟩, rfl⟩
      exact ⟨_, _, ⟨ha, rfl⟩, ⟨hgood, rfl⟩, rfl⟩

/-! ## Results that only differ in their values -/

inductive Alike {γ : Type} : Except ε α → Except ε γ → Prop
  | ok (a : α) (c : γ) : Alike (.ok a) (.ok c)
  | error (e : ε) : Alike (.error e) (.error e)

theorem Alike.refl (x : Except ε α) : Alike x x := by
  cases x with
  | error e => exact .error e
  | ok a => exact .ok a a

theorem Alike.of_map {γ δ φ : Type} {x : Except ε α} {y : Except ε γ} {f : α → δ} {g : γ → φ}
    (h : Alike (x.map f) (y.map g)) : Alike x y := by
  cases x with
  | error e =>
    cases y with
    | error e' =>
      cases h
      exact .error e
    | ok c => cases h
  | ok a =>
    cases y with
    | error e => cases h
    | ok c => exact .ok a c

/-- Maps that refuse the same elements alike refuse lists alike. -/
theorem mapM_alike {γ : Type} {f : α → Except ε β} {g : α → Except ε γ} {l : List α}
    (h : ∀ a ∈ l, Alike (f a) (g a)) : Alike (l.mapM f) (l.mapM g) := by
  induction l with
  | nil => exact .ok [] []
  | cons a l ih =>
    have ha := h a List.mem_cons_self
    have hl := ih fun x hx => h x (List.mem_cons_of_mem a hx)
    generalize hfa : f a = x at ha
    generalize hga : g a = y at ha
    cases ha with
    | error e =>
      rw [mapM_cons_error_head hfa, mapM_cons_error_head hga]
      exact .error e
    | ok b c =>
      -- neither refuses the head, so the tails decide
      generalize hfl : l.mapM f = x at hl
      generalize hgl : l.mapM g = y at hl
      cases hl with
      | error e =>
        rw [mapM_cons_error_tail hfa hfl, mapM_cons_error_tail hga hgl]
        exact .error e
      | ok bs cs =>
        rw [mapM_cons_ok hfa hfl, mapM_cons_ok hga hgl]
        exact .ok _ _

end SecretWeave
