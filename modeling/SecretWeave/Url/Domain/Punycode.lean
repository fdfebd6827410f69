import SecretWeave.Text.Digits

/-!
# Encoded labels

A label with characters outside ASCII is written in ASCII: its ASCII characters, a dash, and behind
it for every other character how far it is from the one before, counted over all places of the text.
The distances are numbers in digits of base 36, whose places grow with what was read before.

Main fact: a label of ASCII characters and a dash stands for those (`decode?_concat_dash`).
-/

namespace SecretWeave.Url.Domain.Punycode

def maxLength : Nat := 2000

def firstNumber : Nat := 0x80

def firstBias : Nat := 72

def digit? (c : Char) : Option Nat :=
  if c.isLower then some (c.toNat - 'a'.toNat)
  else if c.isUpper then some (c.toNat - 'A'.toNat)
  else if c.isDigit then some (26 + (c.toNat - '0'.toNat))
  else none

def threshold (place bias : Nat) : Nat :=
  min 26 (max 1 (place - bias))

def reduce (n times : Nat) : Nat × Nat :=
  if 455 < n then reduce (n / 35) (times + 1) else (n, times)
termination_by n
decreasing_by exact Nat.div_lt_self (by omega) (by omega)

def biasAfter (n size : Nat) (isFirst : Bool) : Nat :=
  let n := if isFirst then n / 700 else n / 2
  let (rest, times) := reduce (n + n / size) 0
  36 * times + 36 * rest / (rest + 38)

/-- Reads a number, given the measure, the place and weight of its next digit and what was read of
it. -/
def number? (bias : Nat) : (place weight sofar : Nat) → Text → Option (Nat × Text)
  | _, _, _, [] => none
  | place, weight, sofar, c :: r =>
    match digit? c with
    | none => none
    | some d =>
      let t := threshold place bias
      if d < t then some (sofar + d * weight, r)
      else number? bias (place + 36) (weight * (36 - t)) (sofar + d * weight) r

theorem length_number?_lt {bias place weight sofar n : Nat} {s r : Text}
    (h : number? bias place weight sofar s = some (n, r)) : r.length < s.length := by
  induction s generalizing place weight sofar with
  | nil => simp [number?] at h
  | cons c s ih =>
    unfold number? at h
    split at h
    · simp at h
    · dsimp only at h
      split at h
      · obtain ⟨rfl, rfl⟩ := Prod.mk.inj (Option.some.inj h)
        simp
      · exact Nat.lt_succ_of_lt (ih h)

def insertAt (n : Nat) (c : Char) (s : Text) : Text :=
  s.take n ++ c :: s.drop n

/-- Puts the characters that numbers stand for into a text. Each number is counted on from the last
character and its place. -/
def decodeFrom (isFirst : Bool) (last place bias : Nat) (s encoded : Text) : Option Text :=
  if encoded = [] then some s
  else
    match _h : number? bias 36 1 0 encoded with
    | none => none
    | some (n, r) =>
      match Text.char? (last + (place + n) / (s.length + 1)) with
      | none => none
      | some c =>
        decodeFrom false c.toNat ((place + n) % (s.length + 1) + 1)
          (biasAfter n (s.length + 1) isFirst) (insertAt ((place + n) % (s.length + 1)) c s) r
termination_by encoded.length
decreasing_by exact length_number?_lt _h

/-- What stands before the last dash, and what behind it. Without anything before a dash the whole is
behind it. -/
def splitLabel (s : Text) : Text × Text :=
  let behind := (s.reverse.takeWhile (· != '-')).reverse
  let before := (s.reverse.dropWhile (· != '-')).drop 1 |>.reverse
  if before = [] then ([], s) else (before, behind)

def decode? (s : Text) : Option Text :=
  let (before, behind) := splitLabel s
  if maxLength < s.length || !before.all fun c => c.toNat < firstNumber then none
  else decodeFrom true firstNumber 0 firstBias before behind

theorem splitLabel_concat_dash {s : Text} (h : s ≠ []) : splitLabel (s ++ ['-']) = (s, []) := by
  simp [splitLabel, h]

theorem decode?_concat_dash {s : Text} (h : s ≠ []) (hl : s.length < maxLength)
    (ha : ∀ c ∈ s, c.toNat < firstNumber) : decode? (s ++ ['-']) = some s := by
  unfold decode?
  rw [splitLabel_concat_dash h]
  have hs : ¬ maxLength < (s ++ ['-']).length := by simp; omega
  have hb : s.all (fun c => c.toNat < firstNumber) = true :=
    List.all_eq_true.2 fun c hc => decide_eq_true (ha c hc)
  dsimp only
  rw [decide_eq_false hs, hb, decodeFrom]
  rfl

end SecretWeave.Url.Domain.Punycode
