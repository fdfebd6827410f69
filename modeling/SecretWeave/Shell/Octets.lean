import SecretWeave.Text.Utf8

/-!
# Octets as characters

A shell and the programs that it starts do not look at characters but at octets. Each octet is held
as the character with its number, so that a text of the shell has as many characters as it has
octets.

Main fact: octets that are held as characters come back (`toOctets_ofOctets`).
-/

namespace SecretWeave.Text

def ofOctets (bs : Bytes) : Text :=
  bs.map fun b => Char.ofNat b.toNat

def toOctets (s : Text) : Bytes :=
  s.map fun c => UInt8.ofNat c.toNat

def octets (s : Text) : Text :=
  ofOctets (utf8 s)

def unoctets (s : Text) : Text :=
  decode (toOctets s)

theorem toNat_ofNat_of_lt {n : Nat} (h : n < 256) : (Char.ofNat n).toNat = n := by
  have hv : n.isValidChar := Or.inl (by omega)
  rw [Char.ofNat, dif_pos hv]
  rfl

@[simp] theorem toOctets_ofOctets (bs : Bytes) : toOctets (ofOctets bs) = bs := by
  unfold toOctets ofOctets
  rw [List.map_map]
  conv => rhs; rw [← List.map_id bs]
  apply List.map_congr_left
  intro b _
  simp [toNat_ofNat_of_lt b.toNat_lt]

end SecretWeave.Text
