import Mathlib.Algebra.BigOperators.Group.List.Basic
import Mathlib.Algebra.GroupWithZero.Nat
import SecretWeave.Fault

/-!
# Placing faults

A fault found in a fragment of a fragment is placed once for each of them, from the inside out. Its
cause stays, its places become one, and its lines add up, each counted from the first line of its
fragment (`atLines_placed`). So it is with lines that a fault was placed on. A malformed document may
have a line as well, the one on which it fails, and that line is not counted from where the document
is placed: the fault is just on the line of the place (`atLines_malformedDocument`).
-/

namespace SecretWeave.Fault

/-- Places a fault on the lines of fragments that lie inside one another, the innermost first. -/
def atLines (f : Fault) (lines : List Nat) : Fault :=
  lines.foldl (fun g n => g.atLine n) f

def places : Fault → Nat
  | .located _ f => f.places + 1
  | _ => 0

variable {f : Fault} {lines : List Nat}

theorem atLines_cons (f : Fault) (n : Nat) (lines : List Nat) :
    f.atLines (n :: lines) = (f.atLine n).atLines lines := rfl

theorem atLine_of_not_located (h : ∀ n g, f ≠ located n g) (n : Nat) :
    f.atLine n = located n f := by
  cases f with
  | located m g => exact absurd rfl (h m g)
  | _ => rfl

theorem places_atLine (f : Fault) (n : Nat) : (f.atLine n).places = max f.places 1 := by
  cases f with
  | located m g =>
    rw [atLine_located, places, places]
    omega
  | _ => rfl

theorem root_atLines (f : Fault) (lines : List Nat) : (f.atLines lines).root = f.root := by
  induction lines generalizing f with
  | nil => rfl
  | cons n lines ih => rw [atLines_cons, ih, root_atLine]

/-- However often it is placed, a fault has as many places as before, but at least one. -/
theorem places_atLines (f : Fault) (hne : lines ≠ []) :
    (f.atLines lines).places = max f.places 1 := by
  induction lines generalizing f with
  | nil => exact absurd rfl hne
  | cons n lines ih =>
    rw [atLines_cons]
    cases lines with
    | nil => exact places_atLine f n
    | cons m lines =>
      rw [ih (f.atLine n) (List.cons_ne_nil m lines), places_atLine]
      omega

/-- Each further line moves a placed fault by the lines that are above it in its fragment. -/
theorem atLines_located (l : Nat) (g : Fault) (hpos : ∀ n ∈ lines, 1 ≤ n) :
    (located l g).atLines lines = located (lines.sum - lines.length + l) g := by
  induction lines generalizing l with
  | nil => exact congrArg (located · g) (Nat.zero_add l).symm
  | cons n lines ih =>
    obtain ⟨hn, hlines⟩ := List.forall_mem_cons.1 hpos
    have hle : lines.length ≤ lines.sum := List.length_le_sum_of_one_le lines hlines
    rw [atLines_cons, atLine_located, ih _ hlines, List.sum_cons, List.length_cons]
    congr 1
    omega

/-- The line of a fault that is placed on lines, when the first of them comes out as `l`. -/
theorem line?_atLines {n l : Nat} {g : Fault} (hpos : ∀ n ∈ lines, 1 ≤ n)
    (h : f.atLine n = located l g) :
    (f.atLines (n :: lines)).line? = some (lines.sum - lines.length + l) := by
  rw [atLines_cons, h, atLines_located l g hpos, line?]

/-- However often a fault is placed, its cause stays, and it has one place or as many as it had. If it
had none, it is on the sum of the lines, less one for each line but the first; this is so also for a
malformed document with a line. The line that a fault had is counted from there exactly if placing
had set it, or if it was the first. -/
theorem atLines_placed (f : Fault) (hne : lines ≠ []) (hpos : ∀ n ∈ lines, 1 ≤ n) :
    (f.atLines lines).root = f.root ∧
    (f.atLines lines).places = max f.places 1 ∧
    ((∀ n g, f ≠ located n g) →
      (f.atLines lines).line? = some (lines.sum - (lines.length - 1))) ∧
    ∀ l, f.line? = some l → 1 ≤ l →
      ((f.atLines lines).line? = some (lines.sum - (lines.length - 1) + (l - 1)) ↔
        l = 1 ∨ ∃ g, f = located l g) := by
  obtain ⟨n, lines, rfl⟩ := List.exists_cons_of_ne_nil hne
  obtain ⟨hn, hlines⟩ := List.forall_mem_cons.1 hpos
  have hle : lines.length ≤ lines.sum := List.length_le_sum_of_one_le lines hlines
  have hfresh : (∀ n g, f ≠ located n g) → (f.atLines (n :: lines)).line? =
      some ((n :: lines).sum - ((n :: lines).length - 1)) := by
    intro h
    rw [line?_atLines hlines (atLine_of_not_located h n), List.sum_cons, List.length_cons]
    congr 1
    omega
  refine ⟨root_atLines f _, places_atLines f hne, hfresh, ?_⟩
  intro l hl hl1
  -- only a line that placing has set is there to be added to
  by_cases hlocated : ∃ m g, f = located m g
  · obtain ⟨m, g, rfl⟩ := hlocated
    obtain rfl : m = l := Option.some.inj hl
    rw [line?_atLines hlines (atLine_located n m g), List.sum_cons, List.length_cons]
    constructor
    · exact fun _ => .inr ⟨g, rfl⟩
    · intro _
      congr 1
      omega
  · have hnot : ∀ n g, f ≠ located n g := fun n g h => hlocated ⟨n, g, h⟩
    rw [hfresh hnot, Option.some.injEq]
    constructor
    · intro h
      left
      omega
    · rintro (rfl | ⟨g, rfl⟩)
      · rfl
      · exact absurd rfl (hnot l g)

/-- A fault on the second line of a fragment on the third line of a fragment on the fifth. -/
theorem atLines_placed_nested :
    [3, 5] ≠ [] ∧ (∀ n ∈ [3, 5], 1 ≤ n) ∧
      ((located 2 notKeyValue).atLines [3, 5]).root = notKeyValue ∧
      ((located 2 notKeyValue).atLines [3, 5]).places = 1 ∧
      ((located 2 notKeyValue).atLines [3, 5]).line? = some 8 := by
  have hne : [3, 5] ≠ [] := List.cons_ne_nil 3 [5]
  have hpos : ∀ n ∈ [3, 5], 1 ≤ n := by decide
  obtain ⟨hroot, hplaces, -, hline⟩ := atLines_placed (located 2 notKeyValue) hne hpos
  exact ⟨hne, hpos, hroot, hplaces, (hline 2 rfl (by decide)).2 (.inr ⟨notKeyValue, rfl⟩)⟩

def unmapped : Fault :=
  malformedDocument (some 7) (.stated "expected a mapping of key: value pairs".toList)

/-- Placed on the third line of a text, it is there and not on the ninth. -/
theorem atLines_malformedDocument :
    unmapped.line? = some 7 ∧ (unmapped.atLines [3]).line? = some 3 ∧
      (unmapped.atLines [3]).line? ≠ some ([3].sum - ([3].length - 1) + (7 - 1)) :=
  ⟨rfl, rfl, by decide⟩

end SecretWeave.Fault
