/-!
# Texts

A text is a list of characters. This module holds the operations on texts that every other part
shares: which characters are blank and which are controls (two Unicode properties, given as
ranges), trimming, counting line breaks, cutting at a separator and splitting into lines.

Main facts: core's white space is blank (`isBlank_of_isWhitespace`), `cut?` finds the first
separator and loses nothing (`eq_of_cut?`, `cut?_eq_none_iff`), and a text is its indentation
followed by what trimming leaves of its start (`indentation_append_trimStart`).
-/

namespace SecretWeave

abbrev Text := List Char

abbrev Bytes := List UInt8

def sumOf : List Nat → Nat
  | [] => 0
  | n :: ns => n + sumOf ns

namespace Text

/-! ## 1. Character classes -/

def inRanges (ranges : List (Nat × Nat)) (n : Nat) : Bool :=
  ranges.any fun r => r.1 ≤ n && n ≤ r.2

def blankRanges : List (Nat × Nat) :=
  [(0x09, 0x0D), (0x20, 0x20), (0x85, 0x85), (0xA0, 0xA0), (0x1680, 0x1680), (0x2000, 0x200A),
    (0x2028, 0x2029), (0x202F, 0x202F), (0x205F, 0x205F), (0x3000, 0x3000)]

def controlRanges : List (Nat × Nat) :=
  [(0x00, 0x1F), (0x7F, 0x9F)]

def isBlank (c : Char) : Bool :=
  inRanges blankRanges c.toNat

def isControl (c : Char) : Bool :=
  inRanges controlRanges c.toNat

def isSolid (c : Char) : Bool :=
  !isBlank c && !isControl c

theorem isBlank_of_isWhitespace {c : Char} (h : c.isWhitespace = true) : isBlank c = true := by
  simp only [Char.isWhitespace, Bool.or_eq_true, decide_eq_true_eq] at h
  rcases h with ((h | h) | h) | h <;> subst h <;> decide

/-- Unicode has more white space than core, such as the no-break space. -/
example : isBlank '\u00a0' = true ∧ Char.isWhitespace '\u00a0' = false := by decide

/-- The code points of ASCII letters and digits. -/
theorem toNat_of_isAlphanum {c : Char} (h : c.isAlphanum = true) :
    (65 ≤ c.toNat ∧ c.toNat ≤ 90) ∨ (97 ≤ c.toNat ∧ c.toNat ≤ 122) ∨
      (48 ≤ c.toNat ∧ c.toNat ≤ 57) := by
  have h' : ((decide ('A'.val ≤ c.val ∧ c.val ≤ 'Z'.val) ||
      (decide ('a'.val ≤ c.val) && decide (c.val ≤ 'z'.val))) ||
      (decide ('0'.val ≤ c.val) && decide (c.val ≤ '9'.val))) = true := h
  simp only [Bool.or_eq_true, Bool.and_eq_true, decide_eq_true_eq, UInt32.le_iff_toNat_le] at h'
  rcases h' with (h' | h') | h'
  · exact .inl h'
  · exact .inr (.inl h')
  · exact .inr (.inr h')

/-! ## 2. Trimming -/

def trimStart (s : Text) : Text :=
  s.dropWhile isBlank

def trimEnd (s : Text) : Text :=
  (s.reverse.dropWhile isBlank).reverse

def trim (s : Text) : Text :=
  trimEnd (trimStart s)

def indentation (s : Text) : Text :=
  s.takeWhile isBlank

theorem indentation_append_trimStart (s : Text) : indentation s ++ trimStart s = s :=
  List.takeWhile_append_dropWhile

def newlines (s : Text) : Nat :=
  s.count '\n'

@[simp] theorem newlines_nil : newlines [] = 0 := rfl

@[simp] theorem newlines_append (s t : Text) : newlines (s ++ t) = newlines s + newlines t := by
  simp [newlines, List.count_append]

/-! ## 3. Cutting -/

def cut? (sep : Char) : Text → Option (Text × Text)
  | [] => none
  | c :: r => if c = sep then some ([], r) else (cut? sep r).map fun p => (c :: p.1, p.2)

theorem eq_of_cut? {sep : Char} {s a b : Text} (h : cut? sep s = some (a, b)) :
    s = a ++ sep :: b ∧ sep ∉ a := by
  induction s generalizing a b with
  | nil => simp [cut?] at h
  | cons c r ih =>
    by_cases hc : c = sep
    · simp only [cut?, hc, if_true, Option.some.injEq, Prod.mk.injEq] at h
      obtain ⟨rfl, rfl⟩ := h
      simp [hc]
    · simp only [cut?, hc, if_false, Option.map_eq_some_iff] at h
      obtain ⟨p, hp, he⟩ := h
      obtain ⟨rfl, rfl⟩ := Prod.mk.injEq .. ▸ he
      obtain ⟨h1, h2⟩ := ih hp
      exact ⟨by simp [← h1], by simp [h2, Ne.symm hc]⟩

theorem cut?_eq_none_iff {sep : Char} {s : Text} : cut? sep s = none ↔ sep ∉ s := by
  induction s with
  | nil => simp [cut?]
  | cons c r ih =>
    by_cases hc : c = sep
    · simp [cut?, hc]
    · simp [cut?, hc, ih, Ne.symm hc]

def after? : (start s : Text) → Option Text
  | [], s => some s
  | _ :: _, [] => none
  | a :: start, c :: s => if a = c then after? start s else none

theorem after?_eq_some_iff {start s r : Text} : after? start s = some r ↔ s = start ++ r := by
  induction start generalizing s with
  | nil => simp [after?]
  | cons a start ih =>
    cases s with
    | nil => simp [after?]
    | cons c s =>
      by_cases h : a = c
      · simp [after?, h, ih]
      · simp [after?, h, Ne.symm h]

theorem after?_eq_none_iff {start s : Text} : after? start s = none ↔ ¬ start <+: s := by
  rw [Option.eq_none_iff_forall_ne_some]
  refine ⟨fun h ⟨r, hr⟩ => h r (after?_eq_some_iff.2 hr.symm), fun h r hr => h ⟨r, ?_⟩⟩
  exact (after?_eq_some_iff.1 hr).symm

def split (sep : Char) : Text → List Text
  | [] => [[]]
  | c :: r =>
    if c = sep then [] :: split sep r
    else match split sep r with
      | [] => [[c]]
      | l :: ls => (c :: l) :: ls

/-- The lines of a text. A line ends at a line feed, a carriage return directly before it belongs
to the ending, and a text that ends in a line feed has no empty last line. -/
def lines : Text → List Text
  | [] => []
  | '\n' :: r => [] :: lines r
  | '\r' :: '\n' :: r => [] :: lines r
  | c :: r =>
    match lines r with
    | [] => [[c]]
    | l :: ls => (c :: l) :: ls

/-! ## 4. Order -/

/-- Whether a text stands before another one or is the same, in the order of code points. -/
def atMost : Text → Text → Bool
  | [], _ => true
  | _ :: _, [] => false
  | a :: r, b :: s => a.toNat < b.toNat || (a == b && atMost r s)

/-! ## 5. Writing numbers -/

def ofNat (n : Nat) : Text :=
  Nat.toDigits 10 n

end Text

end SecretWeave
