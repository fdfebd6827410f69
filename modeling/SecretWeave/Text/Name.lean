import SecretWeave.Text.Basic

/-!
# Names and paths

Two classes of text have a say in templates. A *name* is an identifier of an environment variable,
`[A-Za-z_][A-Za-z0-9_]*`. A *path* tells a secret source what to look up: it is not empty and holds
neither blanks nor control characters.

Main fact: every name is a path (`isPath_of_isName`).
-/

namespace SecretWeave.Text

def startsName (c : Char) : Bool :=
  c.isAlpha || c == '_'

def continuesName (c : Char) : Bool :=
  c.isAlphanum || c == '_'

def isName : Text → Bool
  | [] => false
  | c :: r => startsName c && r.all continuesName

def isPath (s : Text) : Bool :=
  !s.isEmpty && s.all isSolid

@[simp] theorem isName_nil : isName [] = false := rfl

theorem continuesName_of_startsName {c : Char} (h : startsName c = true) :
    continuesName c = true := by
  simp only [startsName, continuesName, Char.isAlphanum, Bool.or_eq_true] at h ⊢
  rcases h with h | h
  · exact .inl (.inl h)
  · exact .inr h

/-- A code point between `!` and `~` is neither blank nor a control. -/
theorem isSolid_of_graphic {c : Char} (lo : 0x21 ≤ c.toNat) (hi : c.toNat ≤ 0x7E) :
    isSolid c = true := by
  simp only [isSolid, isBlank, isControl, inRanges, blankRanges, controlRanges, List.any_cons,
    List.any_nil, Bool.or_false, Bool.and_eq_true, Bool.not_eq_true', Bool.or_eq_false_iff,
    Bool.and_eq_false_iff, decide_eq_false_iff_not]
  omega

theorem isSolid_of_continuesName {c : Char} (h : continuesName c = true) : isSolid c = true := by
  have key : 0x21 ≤ c.toNat ∧ c.toNat ≤ 0x7E := by
    simp only [continuesName, Bool.or_eq_true, beq_iff_eq] at h
    rcases h with h | h
    · have hranges := toNat_of_isAlphanum h
      omega
    · subst h
      decide
  exact isSolid_of_graphic key.1 key.2

theorem isPath_of_isName {s : Text} (h : isName s = true) : isPath s = true := by
  cases s with
  | nil => simp at h
  | cons c r =>
    simp only [isName, Bool.and_eq_true, List.all_eq_true] at h
    simp only [isPath, List.isEmpty_cons, Bool.not_false, Bool.true_and, List.all_cons,
      Bool.and_eq_true, List.all_eq_true]
    exact ⟨isSolid_of_continuesName (continuesName_of_startsName h.1),
      fun x hx => isSolid_of_continuesName (h.2 x hx)⟩

end SecretWeave.Text
