import Mathlib.Data.List.Chain
import SecretWeave.Proofs.Traversal

/-!
# Neighbours that fuse

Some elements of a list become one when they stand side by side. What is collected from a list,
element by element, is the same after all such neighbours are fused (`flatMap_fused`), and a checked
traversal gives the fused results or the same refusal (`mapM_fused`).
-/

namespace SecretWeave

variable {α β ε : Type}

/-- Puts an element in front of a list, fused with the first one there if these two fuse. -/
def fuseOnto (fuse? : α → α → Option α) (a : α) : List α → List α
  | [] => [a]
  | b :: l =>
    match fuse? a b with
    | some c => c :: l
    | none => a :: b :: l

def fused (fuse? : α → α → Option α) (l : List α) : List α :=
  l.foldr (fuseOnto fuse?) []

variable {fuse? : α → α → Option α} {fuse?' : β → β → Option β}

@[simp] theorem fused_nil : fused fuse? [] = [] := rfl

@[simp] theorem fused_cons (a : α) (l : List α) :
    fused fuse? (a :: l) = fuseOnto fuse? a (fused fuse? l) := rfl

theorem fuseOnto_eq_cons {a : α} {l : List α} (h : ∀ b ∈ l.head?, fuse? a b = none) :
    fuseOnto fuse? a l = a :: l := by
  cases l with
  | nil => rfl
  | cons b l => rw [fuseOnto, h b rfl]

/-- A list in which no neighbours fuse stays as it is. -/
theorem fused_of_isChain {l : List α} (h : l.IsChain fun a b => fuse? a b = none) :
    fused fuse? l = l := by
  induction l with
  | nil => rfl
  | cons a l ih =>
    rw [List.isChain_cons] at h
    rw [fused_cons, ih h.2, fuseOnto_eq_cons h.1]

section Collecting

variable {g : α → List β} {P : α → Prop}

/-- A map to lists that respects the fusing of two elements respects that of a list. -/
theorem flatMap_fuseOnto (h : ∀ a b c, fuse? a b = some c → g c = g a ++ g b) (a : α)
    (l : List α) : (fuseOnto fuse? a l).flatMap g = g a ++ l.flatMap g := by
  cases l with
  | nil => rfl
  | cons b l =>
    cases hc : fuse? a b with
    | none => simp only [fuseOnto, hc, List.flatMap_cons]
    | some c => simp only [fuseOnto, hc, List.flatMap_cons, h a b c hc, List.append_assoc]

/-- What is collected from an element that two were fused to is what is collected from the two. -/
theorem flatMap_fused (h : ∀ a b c, fuse? a b = some c → g c = g a ++ g b) (l : List α) :
    (fused fuse? l).flatMap g = l.flatMap g := by
  induction l with
  | nil => rfl
  | cons a l ih => rw [fused_cons, flatMap_fuseOnto h, ih, List.flatMap_cons]

theorem forall_mem_fuseOnto (h : ∀ a b c, fuse? a b = some c → (P c ↔ P a ∧ P b)) (a : α)
    (l : List α) : (∀ x ∈ fuseOnto fuse? a l, P x) ↔ P a ∧ ∀ x ∈ l, P x := by
  cases l with
  | nil => simp [fuseOnto]
  | cons b l =>
    cases hc : fuse? a b with
    | none => simp only [fuseOnto, hc, List.forall_mem_cons]
    | some c => simp only [fuseOnto, hc, List.forall_mem_cons, h a b c hc, and_assoc]

theorem forall_mem_fused (h : ∀ a b c, fuse? a b = some c → (P c ↔ P a ∧ P b)) (l : List α) :
    (∀ a ∈ fused fuse? l, P a) ↔ ∀ a ∈ l, P a := by
  induction l with
  | nil => simp
  | cons a l ih =>
    rw [fused_cons, forall_mem_fuseOnto h, List.forall_mem_cons, and_congr_right_iff.2 fun _ => ih]

end Collecting

section Traversal

variable {f : α → Except ε β}
  (hsome : ∀ a b c, fuse? a b = some c →
    ∃ x y z, f a = .ok x ∧ f b = .ok y ∧ f c = .ok z ∧ fuse?' x y = some z)

include hsome

theorem fuseOnto_of_error {a : α} {e : ε} (ha : f a = .error e) (l : List α) :
    fuseOnto fuse? a l = a :: l := by
  apply fuseOnto_eq_cons
  intro b _
  rw [Option.eq_none_iff_forall_ne_some]
  intro c hc
  obtain ⟨x, _, _, hx, -⟩ := hsome a b c hc
  cases ha.symm.trans hx

variable (hnone : ∀ a b x y, fuse? a b = none → f a = .ok x → f b = .ok y → fuse?' x y = none)

include hnone

/-- Mapping behind fusing is fusing behind mapping, if the first element is mapped. -/
theorem mapM_fuseOnto {a : α} {x : β} (hx : f a = .ok x) (l : List α) :
    (fuseOnto fuse? a l).mapM f = (l.mapM f).map (fuseOnto fuse?' x) := by
  -- only the first of `l` can be fused, so there is no induction here
  cases l with
  | nil =>
    rw [fuseOnto, mapM_cons_map hx]
    rfl
  | cons b l =>
    cases hc : fuse? a b with
    | some c =>
      obtain ⟨x', y, z, hx', hy, hz, hxy⟩ := hsome a b c hc
      obtain rfl := Except.ok.inj (hx.symm.trans hx')
      simp only [fuseOnto, hc]
      rw [mapM_cons_map hz, mapM_cons_map hy]
      cases l.mapM f <;> simp [Except.map, fuseOnto, hxy]
    | none =>
      simp only [fuseOnto, hc]
      rw [mapM_cons_map hx]
      cases hb : f b with
      | error e =>
        rw [mapM_cons_error_head hb]
        rfl
      | ok y =>
        have hxy := hnone a b x y hc hx hb
        rw [mapM_cons_map hb]
        cases l.mapM f <;> simp [Except.map, fuseOnto, hxy]

/-- Only elements that are never refused fuse, and their results fuse in the same way: then the
fused list is traversed like the list. -/
theorem mapM_fused (l : List α) : (fused fuse? l).mapM f = (l.mapM f).map (fused fuse?') := by
  induction l with
  | nil => rfl
  | cons a l ih =>
    cases ha : f a with
    | error e =>
      rw [fused_cons, fuseOnto_of_error hsome ha, mapM_cons_error_head ha, mapM_cons_error_head ha]
      rfl
    | ok x =>
      rw [fused_cons, mapM_fuseOnto hsome hnone ha, ih, mapM_cons_map ha]
      cases l.mapM f <;> rfl

end Traversal

end SecretWeave
