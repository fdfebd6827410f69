import SecretWeave.Text.Utf8

/-!
# Texts as octets and back

A text written in UTF-8 is read back as it was: the first octet of a character tells how many follow,
and every octet that follows is in the range that is owed (`decode_utf8`). The strict reading takes
what was written as well (`decode?_utf8`).
-/

namespace SecretWeave.Text

variable {b : UInt8} {bs r : Bytes} {ranges : List (Nat × Nat)} {c : Char} {n v bits low high : Nat}

/-! ## 1. Reading what is owed -/

theorem decode_of_owed (hlead : b.toNat = n) (howed : owed n = some ranges)
    (hbits : leadBits n = bits) (hrest : continueChar ranges bits bs = (c, r)) :
    decode (b :: bs) = c :: decode r := by
  rw [decode, hlead, howed]
  dsimp only
  rw [hbits, hrest]

/-- A continuation octet within its range gives the next six bits. -/
theorem continueChar_tail (hbits : bits < 64) (hlow : low ≤ bits + 128) (hhigh : bits + 128 ≤ high) :
    continueChar ((low, high) :: ranges) v (UInt8.ofNat (bits + 128) :: r) =
      continueChar ranges (v * 64 + bits) r := by
  have hoctet : (UInt8.ofNat (bits + 128)).toNat = bits + 128 := by
    rw [UInt8.toNat_ofNat']
    omega
  have hmod : (bits + 128) % 64 = bits := by omega
  rw [continueChar, hoctet, if_pos ⟨hlow, hhigh⟩, hmod]

theorem owed_two (hlow : 0x7F < v) (hhigh : v ≤ 0x7FF) : owed (v / 64 + 192) = some [tail] := by
  unfold owed
  rw [if_neg (by omega), if_neg (by omega), if_pos (by omega)]

/-- No overlong form and no surrogate is written, so the second of three octets is in its range. -/
theorem exists_owed_three (hlow : 0x7FF < v) (hhigh : v ≤ 0xFFFF)
    (hvalid : v < 0xD800 ∨ 0xDFFF < v) :
    ∃ low high, owed (v / 4096 + 224) = some [(low, high), tail] ∧
      low ≤ v / 64 % 64 + 128 ∧ v / 64 % 64 + 128 ≤ high := by
  unfold owed
  rw [if_neg (by omega), if_neg (by omega), if_neg (by omega)]
  by_cases hfirst : v / 4096 + 224 = 0xE0
  · exact ⟨0xA0, 0xBF, if_pos hfirst, by omega, by omega⟩
  · rw [if_neg hfirst]
    by_cases hsurrogates : v / 4096 + 224 = 0xED
    · exact ⟨0x80, 0x9F, if_pos hsurrogates, by omega, by omega⟩
    · rw [if_neg hsurrogates, if_pos (by omega)]
      exact ⟨0x80, 0xBF, rfl, by omega, by omega⟩

/-- No overlong form and nothing above the last character is written, so the second of four octets is
in its range. -/
theorem exists_owed_four (hlow : 0xFFFF < v) (hhigh : v ≤ 0x10FFFF) :
    ∃ low high, owed (v / 262144 + 240) = some [(low, high), tail, tail] ∧
      low ≤ v / 4096 % 64 + 128 ∧ v / 4096 % 64 + 128 ≤ high := by
  unfold owed
  rw [if_neg (by omega), if_neg (by omega), if_neg (by omega), if_neg (by omega), if_neg (by omega),
    if_neg (by omega)]
  by_cases hfirst : v / 262144 + 240 = 0xF0
  · exact ⟨0x90, 0xBF, if_pos hfirst, by omega, by omega⟩
  · rw [if_neg hfirst]
    by_cases hmiddle : v / 262144 + 240 < 0xF4
    · exact ⟨0x80, 0xBF, if_pos hmiddle, by omega, by omega⟩
    · rw [if_neg hmiddle, if_pos (by omega)]
      exact ⟨0x80, 0x8F, rfl, by omega, by omega⟩

/-! ## 2. One character -/

/-- Two octets of a character are read as that character. -/
theorem decode_two (hlow : 0x7F < v) (hhigh : v ≤ 0x7FF) (r : Bytes) :
    decode (UInt8.ofNat (v / 64 % 32 + 192) :: UInt8.ofNat (v % 64 + 128) :: r) =
      Char.ofNat v :: decode r := by
  have hlead : (UInt8.ofNat (v / 64 % 32 + 192)).toNat = v / 64 + 192 := by
    rw [UInt8.toNat_ofNat']
    omega
  have hbits : leadBits (v / 64 + 192) = v / 64 := by
    unfold leadBits
    rw [if_neg (by omega), if_pos (by omega)]
    omega
  have hvalue : v / 64 * 64 + v % 64 = v := by omega
  refine decode_of_owed hlead (owed_two hlow hhigh) hbits ?_
  rw [tail, continueChar_tail (by omega) (by omega) (by omega), hvalue]
  rfl

/-- Three octets of a character are read as that character, which is no surrogate. -/
theorem decode_three (hlow : 0x7FF < v) (hhigh : v ≤ 0xFFFF) (hvalid : v < 0xD800 ∨ 0xDFFF < v)
    (r : Bytes) :
    decode (UInt8.ofNat (v / 4096 % 16 + 224) :: UInt8.ofNat (v / 64 % 64 + 128) ::
      UInt8.ofNat (v % 64 + 128) :: r) = Char.ofNat v :: decode r := by
  have hlead : (UInt8.ofNat (v / 4096 % 16 + 224)).toNat = v / 4096 + 224 := by
    rw [UInt8.toNat_ofNat']
    omega
  have hbits : leadBits (v / 4096 + 224) = v / 4096 := by
    unfold leadBits
    rw [if_neg (by omega), if_neg (by omega), if_pos (by omega)]
    omega
  have hvalue : (v / 4096 * 64 + v / 64 % 64) * 64 + v % 64 = v := by omega
  obtain ⟨low, high, howed, hl, hh⟩ := exists_owed_three hlow hhigh hvalid
  refine decode_of_owed hlead howed hbits ?_
  rw [continueChar_tail (by omega) hl hh, tail, continueChar_tail (by omega) (by omega) (by omega),
    hvalue]
  rfl

/-- Four octets of a character are read as that character. -/
theorem decode_four (hlow : 0xFFFF < v) (hhigh : v ≤ 0x10FFFF) (r : Bytes) :
    decode (UInt8.ofNat (v / 262144 % 8 + 240) :: UInt8.ofNat (v / 4096 % 64 + 128) ::
      UInt8.ofNat (v / 64 % 64 + 128) :: UInt8.ofNat (v % 64 + 128) :: r) =
      Char.ofNat v :: decode r := by
  have hlead : (UInt8.ofNat (v / 262144 % 8 + 240)).toNat = v / 262144 + 240 := by
    rw [UInt8.toNat_ofNat']
    omega
  have hbits : leadBits (v / 262144 + 240) = v / 262144 := by
    unfold leadBits
    rw [if_neg (by omega), if_neg (by omega), if_neg (by omega)]
    omega
  have hvalue : ((v / 262144 * 64 + v / 4096 % 64) * 64 + v / 64 % 64) * 64 + v % 64 = v := by omega
  obtain ⟨low, high, howed, hl, hh⟩ := exists_owed_four hlow hhigh
  refine decode_of_owed hlead howed hbits ?_
  rw [continueChar_tail (by omega) hl hh, tail, continueChar_tail (by omega) (by omega) (by omega),
    continueChar_tail (by omega) (by omega) (by omega), hvalue]
  rfl

/-- Every character is read back, whatever follows it. -/
theorem decode_encodeChar (c : Char) (r : Bytes) :
    decode (String.utf8EncodeChar c ++ r) = c :: decode r := by
  have hback : Char.ofNat c.val.toNat = c := Char.ofNat_toNat c
  have hvalid : c.val.toNat < 0xD800 ∨ 0xDFFF < c.val.toNat ∧ c.val.toNat < 0x110000 := c.valid
  -- by the number of octets, from one to four
  unfold String.utf8EncodeChar
  dsimp only
  split
  · rename_i hone
    have hoctet : (UInt8.ofNat c.val.toNat).toNat = c.val.toNat := by
      rw [UInt8.toNat_ofNat']
      omega
    rw [List.singleton_append, decode_cons_of_lt (by omega), hoctet, hback]
  · rename_i hone
    split
    · rename_i htwo
      exact (decode_two (by omega) htwo r).trans (by rw [hback])
    · rename_i htwo
      split
      · rename_i hthree
        exact (decode_three (by omega) hthree (by omega) r).trans (by rw [hback])
      · rename_i hthree
        exact (decode_four (by omega) (by omega) r).trans (by rw [hback])

/-! ## 3. Texts -/

/-- What is written is read back. -/
@[simp] theorem decode_utf8 (s : Text) : decode (utf8 s) = s := by
  induction s with
  | nil => exact decode_nil
  | cons c s ih =>
    show decode (String.utf8EncodeChar c ++ utf8 s) = c :: s
    rw [decode_encodeChar, ih]

@[simp] theorem decode?_utf8 (s : Text) : decode? (utf8 s) = some s := by
  rw [decode?, decode_utf8, if_pos rfl]

end SecretWeave.Text
