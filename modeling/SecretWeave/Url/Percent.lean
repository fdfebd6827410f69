import SecretWeave.Text.Digits
import SecretWeave.Text.Utf8

/-!
# Percent encoding

Characters that may not stand in a part of a URL are written as their UTF-8 octets, each as a
percent sign and two digits. Which characters those are depends on the part.

Main fact: a text without such characters is written as it is (`encode_eq_self`).
-/

namespace SecretWeave.Percent

def isForeign (c : Char) : Bool :=
  c.toNat < 0x20 || 0x7E < c.toNat

def breaksPath (c : Char) : Bool :=
  isForeign c || [' ', '"', '<', '>', '\x60', '#', '?', '\x7b', '\x7d'].contains c

def octet (b : UInt8) : Text :=
  ['%', Text.upperHex (b.toNat / 16), Text.upperHex (b.toNat % 16)]

def encode (breaks : Char → Bool) (s : Text) : Text :=
  s.flatMap fun c => if breaks c then (Text.utf8 [c]).flatMap octet else [c]

/-- The octets that a text stands for; a percent sign without two digits stands for itself. -/
def octets : Text → Bytes
  | [] => []
  | '%' :: a :: b :: r =>
    match Text.hexDigit? a, Text.hexDigit? b with
    | some m, some n => UInt8.ofNat (16 * m + n) :: octets r
    | _, _ => UInt8.ofNat '%'.toNat :: octets (a :: b :: r)
  | c :: r => Text.utf8 [c] ++ octets r

theorem encode_eq_self {breaks : Char → Bool} {s : Text} (h : ∀ c ∈ s, breaks c = false) :
    encode breaks s = s := by
  induction s with
  | nil => rfl
  | cons c r ih =>
    have hr := ih fun x hx => h x (List.mem_cons_of_mem _ hx)
    simp only [encode, List.flatMap_cons] at hr ⊢
    simp [h c (List.mem_cons_self ..), hr]

end SecretWeave.Percent
