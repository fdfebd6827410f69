import SecretWeave.Text.Basic

/-!
# Ordered maps

A mapping that remembers the order in which its keys first came. Storing under a known key changes
the value and keeps the place; a new key goes to the end. That no key occurs twice is part of the
type.

Main facts: `keys_insert`, `get?_insert_self`, `get?_insert_of_ne`, and `mem_distinct`,
`nodup_distinct` for the list operation that keeps first occurrences.
-/

namespace SecretWeave

/-! ## 1. First occurrences -/

def distinct {α : Type} [DecidableEq α] : List α → List α
  | [] => []
  | a :: l => a :: (distinct l).filter (· ≠ a)

theorem mem_distinct {α : Type} [DecidableEq α] {a : α} {l : List α} :
    a ∈ distinct l ↔ a ∈ l := by
  induction l with
  | nil => simp [distinct]
  | cons b l ih =>
    by_cases h : a = b
    · simp [distinct, h]
    · simp [distinct, h, ih]

theorem nodup_distinct {α : Type} [DecidableEq α] (l : List α) : (distinct l).Nodup := by
  induction l with
  | nil => simp [distinct]
  | cons b l ih =>
    rw [distinct, List.nodup_cons]
    exact ⟨by simp, ih.filter _⟩

/-! ## 2. Entries -/

namespace Entries

variable {α β γ : Type} [DecidableEq α]

def keys (es : List (α × β)) : List α :=
  es.map Prod.fst

omit [DecidableEq α] in
@[simp] theorem keys_nil : keys ([] : List (α × β)) = [] := rfl

omit [DecidableEq α] in
@[simp] theorem keys_cons (e : α × β) (es : List (α × β)) : keys (e :: es) = e.1 :: keys es := rfl

def put (k : α) (v : β) : List (α × β) → List (α × β)
  | [] => [(k, v)]
  | e :: es => if e.1 = k then (k, v) :: es else e :: put k v es

def find? (k : α) : List (α × β) → Option β
  | [] => none
  | e :: es => if e.1 = k then some e.2 else find? k es

theorem keys_put (k : α) (v : β) (es : List (α × β)) :
    keys (put k v es) = if k ∈ keys es then keys es else keys es ++ [k] := by
  induction es with
  | nil => simp [put, keys]
  | cons e es ih =>
    by_cases h : e.1 = k
    · simp [put, h]
    · by_cases hm : k ∈ keys es <;> simp [put, h, Ne.symm h, ih, hm]

theorem find?_put_self (k : α) (v : β) (es : List (α × β)) : find? k (put k v es) = some v := by
  induction es with
  | nil => simp [put, find?]
  | cons e es ih => by_cases h : e.1 = k <;> simp [put, find?, h, ih]

theorem find?_put_of_ne {k l : α} (h : l ≠ k) (v : β) (es : List (α × β)) :
    find? l (put k v es) = find? l es := by
  induction es with
  | nil => simp [put, find?, Ne.symm h]
  | cons e es ih =>
    by_cases he : e.1 = k
    · simp [put, find?, he, Ne.symm h]
    · simp [put, find?, he, ih]

end Entries

/-! ## 3. Maps -/

structure OrderedMap (α β : Type) where
  entries : List (α × β)
  nodup : (Entries.keys entries).Nodup

namespace OrderedMap

variable {α β γ ε : Type} [DecidableEq α]

instance : EmptyCollection (OrderedMap α β) := ⟨⟨[], by simp [Entries.keys]⟩⟩

instance : Inhabited (OrderedMap α β) := ⟨∅⟩

def keys (m : OrderedMap α β) : List α :=
  Entries.keys m.entries

def values (m : OrderedMap α β) : List β :=
  m.entries.map Prod.snd

def size (m : OrderedMap α β) : Nat :=
  m.entries.length

def get? (m : OrderedMap α β) (k : α) : Option β :=
  Entries.find? k m.entries

/-- Stores a value: a known key keeps its place, a new one goes to the end. -/
def insert (m : OrderedMap α β) (k : α) (v : β) : OrderedMap α β where
  entries := Entries.put k v m.entries
  nodup := by
    rw [Entries.keys_put]
    split
    · exact m.nodup
    · rename_i h
      exact List.nodup_append.2 ⟨m.nodup, by simp, fun a ha b hb hab => h (by simp_all)⟩

def insertAll (m : OrderedMap α β) (es : List (α × β)) : OrderedMap α β :=
  es.foldl (fun m e => m.insert e.1 e.2) m

def ofList (es : List (α × β)) : OrderedMap α β :=
  insertAll ∅ es

omit [DecidableEq α] in
@[simp] theorem keys_empty : (∅ : OrderedMap α β).keys = [] := rfl

@[simp] theorem get?_empty (k : α) : (∅ : OrderedMap α β).get? k = none := rfl

theorem keys_insert (m : OrderedMap α β) (k : α) (v : β) :
    (m.insert k v).keys = if k ∈ m.keys then m.keys else m.keys ++ [k] :=
  Entries.keys_put k v m.entries

@[simp] theorem get?_insert_self (m : OrderedMap α β) (k : α) (v : β) :
    (m.insert k v).get? k = some v :=
  Entries.find?_put_self k v m.entries

theorem get?_insert_of_ne (m : OrderedMap α β) {k l : α} (h : l ≠ k) (v : β) :
    (m.insert k v).get? l = m.get? l :=
  Entries.find?_put_of_ne h v m.entries

def keep (m : OrderedMap α β) (p : α → Bool) : OrderedMap α β where
  entries := m.entries.filter fun e => p e.1
  nodup := m.nodup.sublist (List.filter_sublist.map Prod.fst)

def sameEntries [DecidableEq β] (m n : OrderedMap α β) : Bool :=
  m.size == n.size && m.entries.all fun e => n.get? e.1 == some e.2

/-! ## 4. Mapping values that may be refused -/

/-- Maps each value in turn and stops at the first that is refused; the keys stay. -/
def traverseEntries (f : β → Except ε γ) :
    (es : List (α × β)) → Except ε { fs : List (α × γ) // Entries.keys fs = Entries.keys es }
  | [] => .ok ⟨[], rfl⟩
  | e :: es =>
    match f e.2 with
    | .error err => .error err
    | .ok v =>
      match traverseEntries f es with
      | .error err => .error err
      | .ok fs => .ok ⟨(e.1, v) :: fs.1, by simp [fs.2]⟩

/-- Maps each value in order of the keys; the first refusal is the answer. -/
def traverse (f : β → Except ε γ) (m : OrderedMap α β) : Except ε (OrderedMap α γ) :=
  match traverseEntries f m.entries with
  | .error err => .error err
  | .ok fs => .ok ⟨fs.1, by rw [fs.2]; exact m.nodup⟩

omit [DecidableEq α] in
theorem keys_of_traverse {f : β → Except ε γ} {m : OrderedMap α β} {n : OrderedMap α γ}
    (h : m.traverse f = .ok n) : n.keys = m.keys := by
  unfold traverse at h
  split at h
  · simp at h
  · rename_i fs _
    obtain rfl := Except.ok.inj h
    exact fs.2

end OrderedMap

end SecretWeave
