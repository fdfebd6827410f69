import SecretWeave.Text.Basic

/-!
# Octets as text

UTF-8 in both directions. Decoding never fails: every maximal run of octets that starts a
character but does not finish one, and every octet that starts none, is read as U+FFFD.

Main facts: a character's continuation never grows the octets left (`length_continueChar_le`), and
every octet below 0x80 is read as the character it numbers (`decode_cons_of_lt`). A strict reading,
which refuses what is not UTF-8, gives a text that is written as the same octets (`eq_of_decode?`).
-/

namespace SecretWeave.Text

def utf8 (s : Text) : Bytes :=
  s.flatMap String.utf8EncodeChar

def replacement : Char := '\uFFFD'

def tail : Nat × Nat := (0x80, 0xBF)

/-- The ranges of the octets that a first octet asks for, if it can start a character. Overlong
forms, surrogates and values above U+10FFFF are excluded by narrowing the second octet. -/
def owed (b : Nat) : Option (List (Nat × Nat)) :=
  if b < 0x80 then some []
  else if b < 0xC2 then none
  else if b < 0xE0 then some [tail]
  else if b = 0xE0 then some [(0xA0, 0xBF), tail]
  else if b = 0xED then some [(0x80, 0x9F), tail]
  else if b < 0xF0 then some [tail, tail]
  else if b = 0xF0 then some [(0x90, 0xBF), tail, tail]
  else if b < 0xF4 then some [tail, tail, tail]
  else if b = 0xF4 then some [(0x80, 0x8F), tail, tail]
  else none

def leadBits (b : Nat) : Nat :=
  if b < 0x80 then b
  else if b < 0xE0 then b % 0x20
  else if b < 0xF0 then b % 0x10
  else b % 0x08

/-- Reads the octets that are owed onto the bits read so far. The first octet out of its range ends
the attempt and is left to be read again. -/
def continueChar : List (Nat × Nat) → Nat → Bytes → Char × Bytes
  | [], v, r => (Char.ofNat v, r)
  | _ :: _, _, [] => (replacement, [])
  | range :: ranges, v, b :: r =>
    if range.1 ≤ b.toNat ∧ b.toNat ≤ range.2 then
      continueChar ranges (v * 64 + b.toNat % 64) r
    else (replacement, b :: r)

theorem length_continueChar_le (ranges : List (Nat × Nat)) (v : Nat) (r : Bytes) :
    (continueChar ranges v r).2.length ≤ r.length := by
  fun_induction continueChar ranges v r with
  | case1 => exact Nat.le_refl _
  | case2 => exact Nat.zero_le _
  | case3 _ _ _ _ _ _ ih => exact Nat.le_succ_of_le ih
  | case4 => exact Nat.le_refl _

def decode : Bytes → Text
  | [] => []
  | b :: r =>
    match owed b.toNat with
    | none => replacement :: decode r
    | some ranges =>
      (continueChar ranges (leadBits b.toNat) r).1 ::
        decode (continueChar ranges (leadBits b.toNat) r).2
termination_by bs => bs.length
decreasing_by
  · simp
  · have := length_continueChar_le ranges (leadBits b.toNat) r
    simp only [List.length_cons]
    omega

/-- The text that octets stand for, if they are UTF-8: then writing it gives the octets back. -/
def decode? (bs : Bytes) : Option Text :=
  if utf8 (decode bs) = bs then some (decode bs) else none

@[simp] theorem decode_nil : decode [] = [] := by
  rw [decode]

theorem decode_cons_of_lt {b : UInt8} (h : b.toNat < 0x80) (r : Bytes) :
    decode (b :: r) = Char.ofNat b.toNat :: decode r := by
  rw [decode]
  simp [owed, leadBits, continueChar, h]

theorem eq_of_decode? {bs : Bytes} {s : Text} (h : decode? bs = some s) : bs = utf8 s := by
  unfold decode? at h
  split at h
  · rename_i hu
    obtain rfl := Option.some.inj h
    exact hu.symm
  · simp at h

end SecretWeave.Text
