import SecretWeave.Text.Basic

/-!
# Digits

Numbers written in digits of a base up to 36, and characters given by their number.
-/

namespace SecretWeave.Text

def digitValue? (c : Char) : Option Nat :=
  if c.isDigit then some (c.toNat - 48)
  else if c.isLower then some (c.toNat - 87)
  else if c.isUpper then some (c.toNat - 55)
  else none

def appendDigit? (base n : Nat) (c : Char) : Option Nat :=
  (digitValue? c).bind fun v => if v < base then some (n * base + v) else none

def readDigits? (base : Nat) (ds : Text) : Option Nat :=
  if ds.isEmpty then none
  else ds.foldl (fun n d => n.bind fun n => appendDigit? base n d) (some 0)

def hexDigit? (c : Char) : Option Nat :=
  appendDigit? 16 0 c

def upperHex (n : Nat) : Char :=
  (Nat.digitChar n).toUpper

def char? (n : Nat) : Option Char :=
  if h : n.isValidChar then some (Char.ofNatAux n h) else none

end SecretWeave.Text
