import SecretWeave.Text.Digits

/-!
# Integers

Integers of 64 bits, as scripts and programs read and write them.
-/

namespace SecretWeave.Shell

def maxInteger : Int := Int.pow 2 63 - 1

def minInteger : Int := -Int.pow 2 63

def wrap (n : Int) : Int :=
  Int.bmod n (Nat.pow 2 64)

def ofInteger (n : Int) : Text :=
  if n < 0 then '-' :: Text.ofNat n.natAbs else Text.ofNat n.natAbs

def isSpace (c : Char) : Bool :=
  [' ', '\t', '\n', '\x0b', '\x0c', '\r'].contains c

def isDigitOf (base : Nat) (c : Char) : Bool :=
  (Text.appendDigit? base 0 c).isSome

def digitsAt (base : Nat) (s : Text) : Option (Nat × Text) :=
  (Text.readDigits? base (s.takeWhile (isDigitOf base))).map fun n =>
    (n, s.dropWhile (isDigitOf base))

/-- The natural number at the start of a text in a base that its start tells: `0x` for sixteen,
`0` for eight. -/
def naturalAt (s : Text) : Option (Nat × Text) :=
  match s with
  | '0' :: x :: d :: r =>
    if (x = 'x' || x = 'X') && isDigitOf 16 d then digitsAt 16 (d :: r) else digitsAt 8 s
  | '0' :: r => digitsAt 8 ('0' :: r)
  | r => digitsAt 10 r

def signAt : Text → Bool × Text
  | '-' :: r => (true, r)
  | '+' :: r => (false, r)
  | r => (false, r)

/-- The integer at the start of a text, behind spaces, and what follows it. Without a base, the
start tells the base. -/
def integerAt (base : Option Nat) (s : Text) : Option (Int × Text) :=
  let p := signAt (s.dropWhile isSpace)
  let read := match base with
    | some b => digitsAt b p.2
    | none => naturalAt p.2
  read.map fun q => (if p.1 then -(q.1 : Int) else q.1, q.2)

def fitsInteger (n : Int) : Bool :=
  minInteger ≤ n && n ≤ maxInteger

def integer? (base : Option Nat) (s : Text) : Option Int :=
  match integerAt base s with
  | some (n, r) => if r.all isSpace && fitsInteger n then some n else none
  | none => none

def count? (s : Text) : Option Nat :=
  match integer? (some 10) s with
  | some n => if 0 ≤ n && n < Int.pow 2 31 then some n.toNat else none
  | none => none

end SecretWeave.Shell
