import Mathlib.Algebra.Ring.Int.Defs
import Mathlib.Logic.Function.Iterate
import SecretWeave.Disk

/-!
# Where a path leads

A path leads up some directories and down along some names. Dots in it say nothing, and a name and
the two dots behind it cancel out. Segments lead from anywhere to where they lead from the root
exactly if they stay below where they start (`down_inside_eq_iff`): at the root nothing is above.
On a disk, the steps along a path lead from a directory to where its way does (`steps_eq_place`), so
two paths with the same way lead to the same place.
-/

namespace SecretWeave

variable {s : Text} {ss done : List Text}

/-! ## 1. Where a path leads -/

/-- Where a path leads: from the root or from where one is, a number of directories up, and down
along names, the innermost first. -/
structure Way where
  rooted : Bool
  above : Nat
  names : List Text
  deriving DecidableEq, Repr

namespace Way

variable {w : Way}

/-- One segment further. A dot stays where it is. Two dots take the last name away; without a name
they lead up, and above the root nowhere. -/
def step (w : Way) (s : Text) : Way :=
  if s = [] ∨ s = ".".toList then w
  else if s = "..".toList then
    match w.names with
    | _ :: names => { w with names := names }
    | [] => if w.rooted then w else { w with above := w.above + 1 }
  else { w with names := s :: w.names }

def follow (w : Way) (ss : List Text) : Way :=
  ss.foldl step w

/-- Where a path leads: dots are dropped, and a name and the two dots behind it cancel out. -/
def ofPath (path : Text) : Way :=
  follow ⟨path.head? = some '/', 0, []⟩ (Text.split '/' path)

def down (w : Way) (names : List Text) : Way :=
  { w with names := names ++ w.names }

def inside (done ss : List Text) : List Text :=
  (follow ⟨true, 0, done⟩ ss).names

def gain (s : Text) : Int :=
  if s = [] ∨ s = ".".toList then 0 else if s = "..".toList then -1 else 1

/-- Segments that nowhere lead above a directory `depth` levels up from where they start. -/
def StaysBelow (depth : Int) (ss : List Text) : Prop :=
  ∀ front, front <+: ss → 0 ≤ depth + (front.map gain).sum

/-! ## 2. Following segments -/

/-- A segment stays, leads up or is a name. -/
@[elab_as_elim]
theorem segment_cases {motive : Text → Prop}
    (stays : ∀ s, s = [] ∨ s = ".".toList → motive s) (up : motive "..".toList)
    (name : ∀ s, ¬ (s = [] ∨ s = ".".toList) → s ≠ "..".toList → motive s) (s : Text) :
    motive s := by
  by_cases hs : s = [] ∨ s = ".".toList
  · exact stays s hs
  · by_cases hup : s = "..".toList
    · exact hup ▸ up
    · exact name s hs hup

theorem step_of_stays (hs : s = [] ∨ s = ".".toList) (w : Way) : w.step s = w :=
  if_pos hs

theorem step_name (hs : ¬ (s = [] ∨ s = ".".toList)) (hup : s ≠ "..".toList) (w : Way) :
    w.step s = w.down [s] := by
  rw [step, if_neg hs, if_neg hup]
  rfl

theorem step_up_cons (rooted : Bool) (above : Nat) (name : Text) (names : List Text) :
    step ⟨rooted, above, name :: names⟩ "..".toList = ⟨rooted, above, names⟩ := rfl

theorem step_up_root : step ⟨true, 0, []⟩ "..".toList = ⟨true, 0, []⟩ := rfl

theorem step_up_above (above : Nat) :
    step ⟨false, above, []⟩ "..".toList = ⟨false, above + 1, []⟩ := rfl

@[simp] theorem follow_nil (w : Way) : w.follow [] = w := rfl

@[simp] theorem follow_cons (w : Way) (s : Text) (ss : List Text) :
    w.follow (s :: ss) = (w.step s).follow ss := rfl

theorem follow_append (w : Way) (ss ss' : List Text) :
    w.follow (ss ++ ss') = (w.follow ss).follow ss' :=
  List.foldl_append

/-- From the root no path leads above it. -/
theorem follow_root (done ss : List Text) :
    follow ⟨true, 0, done⟩ ss = ⟨true, 0, inside done ss⟩ := by
  induction ss generalizing done with
  | nil => rfl
  | cons s ss ih =>
    rw [inside, follow_cons]
    cases s using segment_cases with
    | stays s hs =>
      rw [step_of_stays hs]
      exact ih done
    | up =>
      cases done with
      | nil =>
        rw [step_up_root]
        exact ih []
      | cons name names =>
        rw [step_up_cons]
        exact ih names
    | name s hs hup =>
      rw [step_name hs hup]
      exact ih (s :: done)

theorem inside_cons_stays (hs : s = [] ∨ s = ".".toList) :
    inside done (s :: ss) = inside done ss := by
  rw [inside, follow_cons, step_of_stays hs, inside]

theorem inside_cons_up : inside done ("..".toList :: ss) = inside done.tail ss := by
  cases done with
  | nil => rfl
  | cons name names => rfl

theorem inside_cons_name (hs : ¬ (s = [] ∨ s = ".".toList)) (hup : s ≠ "..".toList) :
    inside done (s :: ss) = inside (s :: done) ss := by
  rw [inside, follow_cons, step_name hs hup]
  rfl

/-! ## 3. Segments that stay below where they start -/

def level (w : Way) : Int :=
  w.names.length - w.above

theorem gain_of_stays (hs : s = [] ∨ s = ".".toList) : gain s = 0 :=
  if_pos hs

theorem gain_up : gain "..".toList = -1 := rfl

theorem gain_name (hs : ¬ (s = [] ∨ s = ".".toList)) (hup : s ≠ "..".toList) : gain s = 1 := by
  rw [gain, if_neg hs, if_neg hup]

/-- A step of a relative way changes its level by what the step gains. -/
theorem level_step (hw : w.rooted = false) (s : Text) :
    (w.step s).rooted = false ∧ (w.step s).level = w.level + gain s := by
  obtain ⟨rooted, above, names⟩ := w
  obtain rfl : rooted = false := hw
  cases s using segment_cases with
  | stays s hs =>
    rw [step_of_stays hs, gain_of_stays hs]
    exact ⟨rfl, (Int.add_zero _).symm⟩
  | up =>
    rw [gain_up]
    cases names with
    | nil =>
      rw [step_up_above]
      refine ⟨rfl, ?_⟩
      simp only [level, List.length_nil]
      omega
    | cons name names =>
      rw [step_up_cons]
      refine ⟨rfl, ?_⟩
      simp only [level, List.length_cons]
      omega
  | name s hs hup =>
    rw [step_name hs hup, gain_name hs hup]
    refine ⟨rfl, ?_⟩
    simp only [level, down, List.length_append, List.length_singleton]
    omega

theorem level_follow (hw : w.rooted = false) (ss : List Text) :
    (w.follow ss).level = w.level + (ss.map gain).sum := by
  induction ss generalizing w with
  | nil => simp
  | cons s ss ih =>
    obtain ⟨hrooted, hlevel⟩ := level_step hw s
    rw [follow_cons, ih hrooted, hlevel, List.map_cons, List.sum_cons, Int.add_assoc]

theorem level_down (w : Way) (names : List Text) :
    (w.down names).level = w.level + names.length := by
  simp only [level, down, List.length_append]
  omega

/-- Nothing is gained where a path would lead above the root. -/
theorem length_inside_ge (done ss : List Text) :
    (done.length : Int) + (ss.map gain).sum ≤ (inside done ss).length := by
  induction ss generalizing done with
  | nil => simp [inside]
  | cons s ss ih =>
    rw [List.map_cons, List.sum_cons]
    cases s using segment_cases with
    | stays s hs =>
      rw [inside_cons_stays hs, gain_of_stays hs, Int.zero_add]
      exact ih done
    | up =>
      -- a step up at the root loses nothing, so this is a bound and no equation
      have hrest := ih done.tail
      rw [List.length_tail] at hrest
      rw [inside_cons_up, gain_up]
      omega
    | name s hs hup =>
      have hrest := ih (s :: done)
      rw [List.length_cons] at hrest
      rw [inside_cons_name hs hup, gain_name hs hup]
      omega

theorem staysBelow_nil {depth : Int} : StaysBelow depth [] ↔ 0 ≤ depth := by
  constructor
  · intro h
    simpa using h [] (List.prefix_refl [])
  · intro h front hfront
    rw [List.prefix_nil.1 hfront]
    simpa using h

/-- A way stays below if it does so at its first step and, from there, behind it. -/
theorem staysBelow_cons {depth : Int} :
    StaysBelow depth (s :: ss) ↔ 0 ≤ depth ∧ StaysBelow (depth + gain s) ss := by
  constructor
  · intro h
    refine ⟨by simpa using h [] List.nil_prefix, ?_⟩
    intro front hfront
    have hrest := h (s :: front) (List.cons_prefix_cons.2 ⟨rfl, hfront⟩)
    rwa [List.map_cons, List.sum_cons, ← Int.add_assoc] at hrest
  · rintro ⟨hdepth, h⟩ front hfront
    cases front with
    | nil => simpa using hdepth
    | cons x front =>
      obtain ⟨rfl, hrest⟩ := List.cons_prefix_cons.1 hfront
      rw [List.map_cons, List.sum_cons, ← Int.add_assoc]
      exact h front hrest

/-- Segments that stay below where they start lead to the same place from anywhere. -/
theorem follow_down (w : Way) (h : StaysBelow done.length ss) :
    (w.down done).follow ss = w.down (inside done ss) := by
  induction ss generalizing done with
  | nil => rfl
  | cons s ss ih =>
    obtain ⟨-, h⟩ := staysBelow_cons.1 h
    rw [follow_cons]
    cases s using segment_cases with
    | stays s hs =>
      rw [gain_of_stays hs, Int.add_zero] at h
      rw [step_of_stays hs, inside_cons_stays hs, ih h]
    | up =>
      rw [gain_up] at h
      cases done with
      | nil =>
        -- the step up is the first to lead above
        have hneg := h [] List.nil_prefix
        simp at hneg
      | cons name names =>
        rw [inside_cons_up, List.tail_cons, ← ih (by simpa [Int.add_neg_cancel_right] using h)]
        rfl
    | name s hs hup =>
      rw [gain_name hs hup] at h
      rw [step_name hs hup, inside_cons_name hs hup, ← ih (by simpa using h)]
      rfl

/-- Segments that gain all they can never lead above the root. -/
theorem staysBelow_of_length_inside
    (h : ((inside done ss).length : Int) ≤ done.length + (ss.map gain).sum) :
    StaysBelow done.length ss := by
  induction ss generalizing done with
  | nil => exact staysBelow_nil.2 (Int.natCast_nonneg _)
  | cons s ss ih =>
    refine staysBelow_cons.2 ⟨Int.natCast_nonneg _, ?_⟩
    rw [List.map_cons, List.sum_cons] at h
    cases s using segment_cases with
    | stays s hs =>
      rw [inside_cons_stays hs, gain_of_stays hs, Int.zero_add] at h
      rw [gain_of_stays hs, Int.add_zero]
      exact ih h
    | up =>
      rw [inside_cons_up, gain_up] at h
      rw [gain_up]
      cases done with
      | nil =>
        -- a step up at the root is lost, and what is lost is not regained
        have hlost := length_inside_ge [] ss
        simp only [List.tail_nil, List.length_nil] at h hlost
        omega
      | cons name names =>
        have hrest : StaysBelow names.length ss := by
          apply ih
          simp only [List.tail_cons, List.length_cons] at h
          omega
        simpa [Int.add_neg_cancel_right] using hrest
    | name s hs hup =>
      rw [inside_cons_name hs hup, gain_name hs hup] at h
      rw [gain_name hs hup]
      have hrest : StaysBelow (s :: done).length ss := by
        apply ih
        rw [List.length_cons]
        omega
      simpa using hrest

/-- Following segments and going down to where they lead from the root is the same exactly if they
stay below where they start. -/
theorem down_inside_eq_iff (hw : w.rooted = false) :
    w.down (inside [] ss) = w.follow ss ↔ StaysBelow 0 ss := by
  constructor
  · intro h
    have hlevel := congrArg level h
    rw [level_down, level_follow hw] at hlevel
    have hlength : ((inside [] ss).length : Int) ≤ ([] : List Text).length + (ss.map gain).sum := by
      rw [List.length_nil]
      omega
    exact staysBelow_of_length_inside hlength
  · intro h
    have hdown : (w.down []).follow ss = w.down (inside [] ss) := follow_down w h
    exact hdown.symm

/-! ## 4. Places on a disk -/

def place (here : Location) (w : Way) : Location :=
  List.dropLast^[w.above] (if w.rooted then [] else here) ++ w.names.reverse

theorem place_down (here : Location) (w : Way) (names : List Text) :
    (w.down names).place here = w.place here ++ names.reverse := by
  rw [place, down, List.reverse_append, ← List.append_assoc]
  rfl

/-- Steps of a way and steps on a disk lead to the same place. -/
theorem place_step (here : Location) (w : Way) (s : Text) :
    (w.step s).place here = Disk.step (w.place here) s := by
  cases s using segment_cases with
  | stays s hs =>
    rw [step_of_stays hs]
    exact (if_pos hs).symm
  | up =>
    obtain ⟨rooted, above, names⟩ := w
    cases names with
    | cons name names =>
      rw [step_up_cons]
      show _ = (place here _).dropLast
      simp [place]
    | nil =>
      show _ = (place here _).dropLast
      cases rooted with
      | true =>
        -- there is nothing above the root
        have hroot : ∀ n, List.dropLast^[n] ([] : Location) = [] := by
          intro n
          induction n with
          | zero => rfl
          | succ n ih => exact ih
        show place here ⟨true, above, []⟩ = _
        simp [place, hroot]
      | false =>
        rw [step_up_above]
        simp [place, Function.iterate_succ_apply']
  | name s hs hup =>
    rw [step_name hs hup]
    have hstep : Disk.step (w.place here) s = w.place here ++ [s] :=
      (if_neg hs).trans (if_neg hup)
    rw [hstep, place_down, List.reverse_singleton]

/-- The steps of a disk along a path lead to the place of its way. -/
theorem steps_eq_place (here : Location) (path : Text) :
    (Text.split '/' path).foldl Disk.step (if path.head? = some '/' then [] else here) =
      (ofPath path).place here := by
  have hfollow : ∀ (ss : List Text) (w : Way),
      ss.foldl Disk.step (w.place here) = (w.follow ss).place here := by
    intro ss
    induction ss with
    | nil => exact fun _ => rfl
    | cons s ss ih =>
      intro w
      rw [List.foldl_cons, ← place_step, ih, follow_cons]
  rw [ofPath, ← hfollow]
  simp [place]

end Way

end SecretWeave
