import SecretWeave.OrderedMap
import SecretWeave.Proofs.Traversal

/-!
# Ordered maps as lists of entries

What a map holds is what its entries say, and a map whose values are mapped one by one is a checked
traversal of its entries.
-/

namespace SecretWeave

variable {α β γ ε : Type} [DecidableEq α]

/-! ## 1. Looking up -/

theorem Entries.mem_keys_iff {k : α} {es : List (α × β)} :
    k ∈ Entries.keys es ↔ ∃ v, Entries.find? k es = some v := by
  induction es with
  | nil => simp [Entries.find?]
  | cons e es ih =>
    by_cases h : e.1 = k
    · simp [Entries.find?, h]
    · simp [Entries.find?, h, Ne.symm h, ih]

namespace OrderedMap

theorem mem_keys_iff {m : OrderedMap α β} {k : α} : k ∈ m.keys ↔ ∃ v, m.get? k = some v :=
  Entries.mem_keys_iff

theorem get?_eq_none_iff {m : OrderedMap α β} {k : α} : m.get? k = none ↔ k ∉ m.keys := by
  rw [mem_keys_iff, Option.eq_none_iff_forall_ne_some, not_exists]

omit [DecidableEq α] in
theorem eq_of_entries_eq {m n : OrderedMap α β} (h : m.entries = n.entries) : m = n := by
  cases m
  cases n
  simpa using h

/-! ## 2. Mapping values that may be refused -/

def onValue (f : β → Except ε γ) (e : α × β) : Except ε (α × γ) :=
  match f e.2 with
  | .ok v => .ok (e.1, v)
  | .error err => .error err

omit [DecidableEq α] in
theorem onValue_eq_ok_iff {f : β → Except ε γ} {e : α × β} {e' : α × γ} :
    onValue f e = .ok e' ↔ e'.1 = e.1 ∧ f e.2 = .ok e'.2 := by
  obtain ⟨k, v⟩ := e'
  unfold onValue
  cases h : f e.2 with
  | ok w => simp [eq_comm]
  | error err => simp

omit [DecidableEq α] in
theorem onValue_eq_error_iff {f : β → Except ε γ} {e : α × β} {err : ε} :
    (onValue f e : Except ε (α × γ)) = .error err ↔ f e.2 = .error err := by
  unfold onValue
  cases f e.2 <;> simp

omit [DecidableEq α] in
/-- Traversing entries is mapping them in turn. -/
theorem traverseEntries_map (f : β → Except ε γ) (es : List (α × β)) :
    (traverseEntries f es).map Subtype.val = es.mapM (onValue f) := by
  induction es with
  | nil => rfl
  | cons e es ih =>
    -- the traversal that carries the proof about keys takes the same steps
    rw [traverseEntries]
    cases he : f e.2 with
    | error err =>
      have hhead : (onValue f e : Except ε (α × γ)) = .error err := onValue_eq_error_iff.2 he
      rw [mapM_cons_error_head hhead]
      rfl
    | ok v =>
      have hhead : onValue f e = .ok (e.1, v) := onValue_eq_ok_iff.2 ⟨rfl, he⟩
      cases hes : traverseEntries f es with
      | error err =>
        rw [hes] at ih
        rw [mapM_cons_error_tail hhead ih.symm]
        rfl
      | ok fs =>
        rw [hes] at ih
        rw [mapM_cons_ok hhead ih.symm]
        rfl

omit [DecidableEq α] in
theorem traverse_map_entries (f : β → Except ε γ) (m : OrderedMap α β) :
    (m.traverse f).map entries = m.entries.mapM (onValue f) := by
  rw [← traverseEntries_map]
  unfold traverse
  cases traverseEntries f m.entries <;> rfl

omit [DecidableEq α] in
theorem traverse_eq_ok_iff_mapM {f : β → Except ε γ} {m : OrderedMap α β} {n : OrderedMap α γ} :
    m.traverse f = .ok n ↔ m.entries.mapM (onValue f) = .ok n.entries := by
  -- a map is told by its entries, so nothing is lost by looking at these
  rw [← traverse_map_entries]
  cases m.traverse f with
  | error err => simp [Except.map]
  | ok n' =>
    simp only [Except.map, Except.ok.injEq]
    exact ⟨fun h => h ▸ rfl, eq_of_entries_eq⟩

def mapValues (g : β → γ) (m : OrderedMap α β) : OrderedMap α γ where
  entries := m.entries.map fun e => (e.1, g e.2)
  nodup := by
    have hkeys : Entries.keys (m.entries.map fun e => (e.1, g e.2)) = Entries.keys m.entries := by
      rw [Entries.keys, List.map_map]
      rfl
    rw [hkeys]
    exact m.nodup

omit [DecidableEq α] in
@[simp] theorem keys_mapValues (g : β → γ) (m : OrderedMap α β) :
    (m.mapValues g).keys = m.keys := by
  show ((m.entries.map fun e => (e.1, g e.2)).map Prod.fst) = m.entries.map Prod.fst
  rw [List.map_map]
  rfl

omit [DecidableEq α] in
@[simp] theorem values_mapValues (g : β → γ) (m : OrderedMap α β) :
    (m.mapValues g).values = m.values.map g := by
  show ((m.entries.map fun e => (e.1, g e.2)).map Prod.snd) = (m.entries.map Prod.snd).map g
  rw [List.map_map, List.map_map]
  rfl

omit [DecidableEq α] in
theorem mapValues_congr {g₁ g₂ : β → γ} {m : OrderedMap α β} (h : ∀ b ∈ m.values, g₁ b = g₂ b) :
    m.mapValues g₁ = m.mapValues g₂ := by
  apply eq_of_entries_eq
  apply List.map_congr_left
  intro e he
  rw [h e.2 (List.mem_map_of_mem he)]

omit [DecidableEq α] in
/-- Values are mapped in place when a condition tells for each whether it is refused. -/
theorem traverse_eq_ok_iff {f : β → Except ε γ} {good : β → Prop} {g : β → γ} {m : OrderedMap α β}
    (hf : ∀ b ∈ m.values, ∀ c, f b = .ok c ↔ good b ∧ g b = c) {n : OrderedMap α γ} :
    m.traverse f = .ok n ↔ (∀ b ∈ m.values, good b) ∧ n = m.mapValues g := by
  have hentry : ∀ e ∈ m.entries, ∀ e', onValue f e = .ok e' ↔ good e.2 ∧ (e.1, g e.2) = e' := by
    rintro e he ⟨k, c⟩
    rw [onValue_eq_ok_iff, hf e.2 (List.mem_map_of_mem he), Prod.mk.injEq]
    constructor
    · rintro ⟨hk, hgood, hc⟩
      exact ⟨hgood, hk.symm, hc⟩
    · rintro ⟨hgood, hk, hc⟩
      exact ⟨hk.symm, hgood, hc⟩
  rw [traverse_eq_ok_iff_mapM, mapM_eq_ok_iff_map hentry, values, List.forall_mem_map]
  constructor
  · rintro ⟨hgood, hn⟩
    exact ⟨hgood, eq_of_entries_eq hn⟩
  · rintro ⟨hgood, rfl⟩
    exact ⟨hgood, rfl⟩

omit [DecidableEq α] in
/-- Traversing mapped values, none of which is refused, is mapping once. -/
theorem traverse_mapValues {δ : Type} {g : β → γ} {f : γ → Except ε δ} {k : β → δ}
    {m : OrderedMap α β} (h : ∀ b ∈ m.values, f (g b) = .ok (k b)) :
    (m.mapValues g).traverse f = .ok (m.mapValues k) := by
  rw [traverse_eq_ok_iff_mapM, mapM_eq_ok_iff]
  show List.Forall₂ _ (m.entries.map _) (m.entries.map _)
  rw [List.forall₂_map_left_iff, List.forall₂_map_right_iff, List.forall₂_same]
  intro e he
  exact onValue_eq_ok_iff.2 ⟨rfl, h e.2 (List.mem_map_of_mem he)⟩

omit [DecidableEq α] in
/-- Traversing fails with what the first refused value is refused for. -/
theorem traverse_eq_error_iff {f : β → Except ε γ} {m : OrderedMap α β} {err : ε} :
    m.traverse f = .error err ↔ RefusedAt f m.values err := by
  have key : m.traverse f = .error err ↔ RefusedAt (onValue f) m.entries err := by
    rw [← mapM_eq_error_iff, ← traverse_map_entries]
    cases m.traverse f <;> simp [Except.map]
  -- an entry is refused for its value, the key has no part in it
  have hval : RefusedAt (onValue f) m.entries err ↔ RefusedAt (fun e => f e.2) m.entries err := by
    apply refusedAt_congr
    · intro e
      constructor
      · rintro ⟨e', he⟩
        exact ⟨e'.2, (onValue_eq_ok_iff.1 he).2⟩
      · rintro ⟨v, hv⟩
        exact ⟨(e.1, v), onValue_eq_ok_iff.2 ⟨rfl, hv⟩⟩
    · intro e
      exact onValue_eq_error_iff
  rw [key, hval, values, refusedAt_map]

omit [DecidableEq α] in
theorem traverse_congr {f g : β → Except ε γ} {m : OrderedMap α β}
    (h : ∀ b ∈ m.values, f b = g b) : m.traverse f = m.traverse g := by
  have hentries : ∀ es : List (α × β), (∀ e ∈ es, f e.2 = g e.2) →
      traverseEntries f es = traverseEntries g es := by
    intro es
    induction es with
    | nil => intro _; rfl
    | cons e es ih =>
      intro hes
      rw [List.forall_mem_cons] at hes
      rw [traverseEntries, traverseEntries, hes.1, ih hes.2]
  unfold traverse
  rw [hentries m.entries fun e he => h e.2 (List.mem_map_of_mem he)]

omit [DecidableEq α] in
/-- Maps that refuse the same values for the same reasons are refused alike. -/
theorem traverse_alike {δ : Type} {f : β → Except ε γ} {g : β → Except ε δ} {m : OrderedMap α β}
    (h : ∀ b ∈ m.values, Alike (f b) (g b)) : Alike (m.traverse f) (m.traverse g) := by
  have hentry : ∀ e ∈ m.entries, Alike (onValue f e) (onValue g e) := by
    intro e he
    have hvalue := h e.2 (List.mem_map_of_mem he)
    unfold onValue
    generalize f e.2 = x at hvalue ⊢
    generalize g e.2 = y at hvalue ⊢
    cases hvalue with
    | ok c d => exact .ok _ _
    | error err => exact .error err
  have hall := mapM_alike hentry
  rw [← traverse_map_entries, ← traverse_map_entries] at hall
  exact hall.of_map

/-! ## 3. Storing -/

/-- The keys of a map do not depend on the values that are stored. -/
theorem keys_insertAll_congr {es fs : List (α × β)} (h : Entries.keys es = Entries.keys fs)
    {m n : OrderedMap α β} (hm : m.keys = n.keys) : (m.insertAll es).keys = (n.insertAll fs).keys := by
  induction es generalizing fs m n with
  | nil =>
    cases fs with
    | nil => exact hm
    | cons f fs => cases h
  | cons e es ih =>
    cases fs with
    | nil => cases h
    | cons f fs =>
      rw [Entries.keys_cons, Entries.keys_cons, List.cons.injEq] at h
      apply ih h.2
      show (m.insert e.1 e.2).keys = (n.insert f.1 f.2).keys
      rw [keys_insert, keys_insert, hm, h.1]

end OrderedMap

end SecretWeave
