import SecretWeave.Proofs.OrderedMap

/-!
# Storing entries

A list of entries that is stored in a map leaves the keys at the places where they first came, those
of the map before the new ones (`keys_insertAll`), and under each key the value that came last
(`get?_insertAll`). What is used with repetitions is listed in order of first use
(`inFirstUseOrder_distinct`).
-/

namespace SecretWeave

variable {α β : Type} [DecidableEq α]

/-! ## 1. First occurrences -/

theorem distinct_of_nodup {l : List α} (h : l.Nodup) : distinct l = l := by
  induction l with
  | nil => rfl
  | cons a l ih =>
    obtain ⟨ha, hl⟩ := List.nodup_cons.1 h
    rw [distinct, ih hl, List.filter_eq_self.2]
    intro b hb
    simpa using ne_of_mem_of_not_mem hb ha

/-- Of joined lists the second keeps what the first does not have. -/
theorem distinct_append (l r : List α) :
    distinct (l ++ r) = distinct l ++ (distinct r).filter (· ∉ l) := by
  induction l with
  | nil => simp [distinct]
  | cons a l ih =>
    rw [List.cons_append, distinct, distinct, ih, List.filter_append, List.filter_filter,
      List.cons_append]
    congr 2
    apply List.filter_congr
    intro b _
    by_cases h : b = a <;> simp [h]

theorem distinct_append_distinct (l r : List α) :
    distinct (distinct l ++ distinct r) = distinct (l ++ r) := by
  rw [distinct_append, distinct_append, distinct_of_nodup (nodup_distinct l),
    distinct_of_nodup (nodup_distinct r)]
  simp only [mem_distinct]

/-- What is found first in a list is found first among first occurrences. -/
theorem find?_distinct (p : α → Bool) (l : List α) : (distinct l).find? p = l.find? p := by
  induction l with
  | nil => rfl
  | cons a l ih =>
    rw [distinct, List.find?_cons, List.find?_cons, ← ih]
    cases ha : p a with
    | true => rfl
    | false =>
      -- the occurrences of `a` that are left out do not satisfy the test either
      show ((distinct l).filter (· ≠ a)).find? p = (distinct l).find? p
      rw [List.find?_filter]
      congr 1
      funext b
      by_cases hb : b = a
      · simp [hb, ha]
      · simp [hb]

/-- A list of all that is used, without repetitions, in order of first use: what is used up to some
place is a front part of the list. -/
structure InFirstUseOrder (listed used : List α) : Prop where
  nodup : listed.Nodup
  mem : ∀ a, a ∈ listed ↔ a ∈ used
  front : ∀ before after, used = before ++ after →
    ∃ first, first <+: listed ∧ ∀ a, a ∈ first ↔ a ∈ before

/-- A list without its repetitions is in the order of first use. -/
theorem inFirstUseOrder_distinct (l : List α) : InFirstUseOrder (distinct l) l where
  nodup := nodup_distinct l
  mem _ := mem_distinct
  front before after h := by
    refine ⟨distinct before, ?_, fun _ => mem_distinct⟩
    rw [h, distinct_append]
    exact List.prefix_append _ _

/-! ## 2. Last values -/

namespace Entries

def last? (k : α) (es : List (α × β)) : Option β :=
  ((es.filter fun e => e.1 = k).map Prod.snd).getLast?

@[simp] theorem last?_nil (k : α) : last? k ([] : List (α × β)) = none := rfl

theorem last?_cons (k : α) (e : α × β) (es : List (α × β)) :
    last? k (e :: es) = (last? k es).or (if e.1 = k then some e.2 else none) := by
  unfold last?
  by_cases h : e.1 = k
  · simp only [h, List.filter_cons, decide_true, if_true, List.map_cons, List.getLast?_cons]
    cases ((es.filter fun e => e.1 = k).map Prod.snd).getLast? <;> rfl
  · simp [h]

theorem last?_eq_none_iff {k : α} {es : List (α × β)} : last? k es = none ↔ k ∉ keys es := by
  induction es with
  | nil => simp
  | cons e es ih =>
    rw [last?_cons, Option.or_eq_none_iff, ih]
    by_cases h : e.1 = k
    · simp [h]
    · simp [h, Ne.symm h]

theorem mem_of_last? {k : α} {v : β} {es : List (α × β)} (h : last? k es = some v) :
    (k, v) ∈ es := by
  unfold last? at h
  obtain ⟨e, he, rfl⟩ := List.mem_map.1 (List.mem_of_getLast? h)
  obtain ⟨hmem, hk⟩ := List.mem_filter.1 he
  obtain rfl : e.1 = k := by simpa using hk
  exact hmem

/-- Where no key occurs twice, the last value is the only one. -/
theorem last?_eq_find? {es : List (α × β)} (h : (keys es).Nodup) (k : α) :
    last? k es = find? k es := by
  induction es with
  | nil => rfl
  | cons e es ih =>
    rw [keys_cons, List.nodup_cons] at h
    rw [last?_cons, find?, ih h.2]
    by_cases he : e.1 = k
    · have hk : k ∉ keys es := he ▸ h.1
      rw [← ih h.2, last?_eq_none_iff.2 hk]
      simp [he]
    · simp [he]

/-- The last value of a key in entries that are made from keys is the one made from it. -/
theorem last?_filterMap (k : α) (g : α → Option β) (ks : List α) :
    last? k (ks.filterMap fun l => (g l).map (l, ·)) = if k ∈ ks then g k else none := by
  induction ks with
  | nil => rfl
  | cons l ks ih =>
    cases hg : g l with
    | none =>
      rw [List.filterMap_cons_none (by rw [hg]; rfl), ih]
      by_cases h : k = l
      · simp [h, hg]
      · simp [h]
    | some v =>
      rw [List.filterMap_cons_some (b := (l, v)) (by rw [hg]; rfl), last?_cons, ih]
      by_cases h : l = k
      -- all that is under the key is the same, so it does not matter which comes last
      · subst h
        by_cases hl : l ∈ ks <;> simp [hg, hl]
      · simp [h, Ne.symm h]

end Entries

/-! ## 3. Maps -/

namespace OrderedMap

/-- Storing entries keeps the keys that are there and adds new ones at their first place. -/
theorem keys_insertAll (m : OrderedMap α β) (es : List (α × β)) :
    (m.insertAll es).keys = m.keys ++ (distinct (Entries.keys es)).filter (· ∉ m.keys) := by
  induction es generalizing m with
  | nil => simp [insertAll, distinct]
  | cons e es ih =>
    show ((m.insert e.1 e.2).insertAll es).keys = _
    rw [ih, keys_insert, Entries.keys_cons, distinct, List.filter_cons, List.filter_filter]
    by_cases h : e.1 ∈ m.keys
    -- a known key keeps its place, and later occurrences of it are known too
    · simp only [h, if_true, not_true_eq_false, decide_false, Bool.false_eq_true, if_false]
      congr 1
      apply List.filter_congr
      intro k _
      by_cases hk : k = e.1 <;> simp [hk, h]
    · simp only [h, if_false, not_false_eq_true, decide_true, if_true, List.append_assoc,
        List.singleton_append]
      congr 2
      apply List.filter_congr
      intro k _
      by_cases hk : k = e.1 <;> simp [hk]

theorem keys_insertAll_of_mem {m : OrderedMap α β} {es : List (α × β)}
    (h : ∀ k ∈ Entries.keys es, k ∈ m.keys) : (m.insertAll es).keys = m.keys := by
  rw [keys_insertAll, List.append_right_eq_self, List.filter_eq_nil_iff]
  intro k hk
  simp [h k (mem_distinct.1 hk)]

/-- Of entries with one key the last one counts. -/
theorem get?_insertAll (m : OrderedMap α β) (es : List (α × β)) (k : α) :
    (m.insertAll es).get? k = (Entries.last? k es).or (m.get? k) := by
  induction es generalizing m with
  | nil => rfl
  | cons e es ih =>
    show ((m.insert e.1 e.2).insertAll es).get? k = _
    rw [ih, Entries.last?_cons, Option.or_assoc]
    by_cases h : e.1 = k
    · subst h
      simp
    · simp [h, get?_insert_of_ne m (Ne.symm h)]

theorem mem_keys_insertAll {m : OrderedMap α β} {es : List (α × β)} {k : α} :
    k ∈ (m.insertAll es).keys ↔ k ∈ m.keys ∨ k ∈ Entries.keys es := by
  rw [keys_insertAll, List.mem_append, List.mem_filter, mem_distinct]
  by_cases h : k ∈ m.keys <;> simp [h]

/-- Entries that are stored one list after the other are stored as one list. -/
theorem insertAll_append (m : OrderedMap α β) (es fs : List (α × β)) :
    m.insertAll (es ++ fs) = (m.insertAll es).insertAll fs :=
  List.foldl_append

/-- The keys of a list of entries, in order of first appearance. -/
theorem keys_ofList (es : List (α × β)) : (ofList es).keys = distinct (Entries.keys es) := by
  rw [ofList, keys_insertAll]
  simp

theorem mem_keys_ofList {es : List (α × β)} {k : α} :
    k ∈ (ofList es).keys ↔ k ∈ Entries.keys es := by
  rw [keys_ofList, mem_distinct]

theorem get?_ofList (es : List (α × β)) (k : α) : (ofList es).get? k = Entries.last? k es := by
  rw [ofList, get?_insertAll]
  simp

theorem last?_entries (m : OrderedMap α β) (k : α) : Entries.last? k m.entries = m.get? k :=
  Entries.last?_eq_find? m.nodup k

theorem mapValues_insert {γ : Type} (g : β → γ) (m : OrderedMap α β) (k : α) (v : β) :
    (m.mapValues g).insert k (g v) = (m.insert k v).mapValues g := by
  apply eq_of_entries_eq
  show Entries.put k (g v) (m.entries.map fun e => (e.1, g e.2)) =
    (Entries.put k v m.entries).map fun e => (e.1, g e.2)
  induction m.entries with
  | nil => rfl
  | cons e es ih => by_cases h : e.1 = k <;> simp [Entries.put, h, ih]

/-- Values may be replaced before they are stored or after. -/
theorem ofList_map {γ : Type} (g : β → γ) (es : List (α × β)) :
    ofList (es.map fun e => (e.1, g e.2)) = (ofList es).mapValues g := by
  have key : ∀ m : OrderedMap α β,
      (m.mapValues g).insertAll (es.map fun e => (e.1, g e.2)) = (m.insertAll es).mapValues g := by
    induction es with
    | nil => intro m; rfl
    | cons e es ih =>
      intro m
      show ((m.mapValues g).insert e.1 (g e.2)).insertAll _ =
        ((m.insert e.1 e.2).insertAll es).mapValues g
      rw [mapValues_insert, ih]
  exact key ∅

theorem get?_mapValues {γ : Type} (g : β → γ) (m : OrderedMap α β) (k : α) :
    (m.mapValues g).get? k = (m.get? k).map g := by
  show Entries.find? k (m.entries.map fun e => (e.1, g e.2)) = (Entries.find? k m.entries).map g
  induction m.entries with
  | nil => rfl
  | cons e es ih => by_cases h : e.1 = k <;> simp [Entries.find?, h, ih]

/-- A map is told by its keys, in order, and what is under them. -/
theorem entries_eq_filterMap (m : OrderedMap α β) :
    m.entries = m.keys.filterMap fun k => (m.get? k).map (k, ·) := by
  have key : ∀ es : List (α × β), (Entries.keys es).Nodup →
      es = (Entries.keys es).filterMap fun k => (Entries.find? k es).map (k, ·) := by
    intro es hes
    induction es with
    | nil => rfl
    | cons e es ih =>
      obtain ⟨he, hrest⟩ := List.nodup_cons.1 hes
      have htail : (Entries.keys es).filterMap (fun k => (Entries.find? k (e :: es)).map (k, ·)) =
          (Entries.keys es).filterMap fun k => (Entries.find? k es).map (k, ·) := by
        apply List.filterMap_congr
        intro k hk
        have hne : e.1 ≠ k := fun h => he (h ▸ hk)
        rw [Entries.find?, if_neg hne]
      rw [Entries.keys_cons, List.filterMap_cons_some (b := e) (by simp [Entries.find?]), htail,
        ← ih hrest]
  exact key m.entries m.nodup

theorem ext_get? {m n : OrderedMap α β} (hkeys : m.keys = n.keys)
    (hget : ∀ k, m.get? k = n.get? k) : m = n := by
  apply eq_of_entries_eq
  rw [entries_eq_filterMap, entries_eq_filterMap, hkeys]
  simp only [hget]

theorem mem_values_iff {m : OrderedMap α β} {v : β} : v ∈ m.values ↔ ∃ k, m.get? k = some v := by
  rw [values, entries_eq_filterMap, List.map_filterMap, List.mem_filterMap]
  constructor
  · rintro ⟨k, -, hk⟩
    exact ⟨k, by simpa using hk⟩
  · rintro ⟨k, hk⟩
    exact ⟨k, mem_keys_iff.2 ⟨v, hk⟩, by simp [hk]⟩

theorem mem_values_insert {m : OrderedMap α β} {k : α} {v w : β} (h : w ∈ (m.insert k v).values) :
    w = v ∨ w ∈ m.values := by
  obtain ⟨l, hl⟩ := mem_values_iff.1 h
  by_cases hk : l = k
  · subst hk
    rw [get?_insert_self] at hl
    exact .inl (Option.some.inj hl).symm
  · rw [get?_insert_of_ne m hk] at hl
    exact .inr (mem_values_iff.2 ⟨l, hl⟩)

end OrderedMap

end SecretWeave
