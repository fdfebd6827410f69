/-!
# Binary floating point numbers of 64 bits

A finite number is a sign and an integer times a power of two, the integer below 2^53 and the power
at least 2^-1074. A ratio of natural numbers is rounded to the nearest of these numbers, and of two
equally near ones to the one whose integer is even.
-/

namespace SecretWeave

structure Binary64 where
  negative : Bool
  mantissa : Nat
  exponent : Int
  deriving DecidableEq, Repr

def divEven (num den : Nat) : Nat :=
  let q := num / den
  let twice := 2 * (num % den)
  if twice < den then q
  else if den < twice then q + 1
  else if q % 2 = 0 then q else q + 1

namespace Binary64

def precision : Nat := 53

def minExponent : Int := -1074

def maxExponent : Int := 971

def unscale (num den : Nat) (exponent : Int) : Nat × Nat :=
  if exponent ≥ 0 then (num, den * Nat.pow 2 exponent.toNat)
  else (num * Nat.pow 2 (-exponent).toNat, den)

/-- The power of two at which the integer part of a ratio has 53 binary digits, or the least. -/
def exponentOf (num den : Nat) : Int :=
  let guess : Int := (num.log2 : Int) - den.log2 - precision
  let fits := fun e : Int =>
    let (n, d) := unscale num den e
    n / d < Nat.pow 2 precision
  let e := if fits guess then guess else guess + 1
  let e := if fits e then e else e + 1
  max e minExponent

def ofRatio (negative : Bool) (num den : Nat) : Option Binary64 :=
  if num = 0 then some ⟨negative, 0, minExponent⟩
  else
    let e := exponentOf num den
    let (n, d) := unscale num den e
    let m := divEven n d
    let (m, e) := if m = Nat.pow 2 precision then (Nat.pow 2 (precision - 1), e + 1) else (m, e)
    if e > maxExponent then none else some ⟨negative, m, e⟩

end Binary64

end SecretWeave
