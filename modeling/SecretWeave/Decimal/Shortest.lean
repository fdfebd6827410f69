import SecretWeave.Decimal.Binary64
import SecretWeave.Text.Basic

/-!
# Shortest decimals

The decimal with the fewest digits that is rounded to a given number, and of those the one nearest
to it. It is looked for on ever finer decimal grids. If a grid has a point in the interval of the
reals that round to the number, one of the two grid points next to the number is in it, so only
these two are tried.

`Notation` says how digits and exponent are written down.
-/

namespace SecretWeave

structure Decimal where
  digits : Nat
  exponent : Int
  deriving DecidableEq, Repr

namespace Decimal

def ratio (n base : Nat) (exponent : Int) : Nat × Nat :=
  if exponent ≥ 0 then (n * Nat.pow base exponent.toNat, 1)
  else (n, Nat.pow base (-exponent).toNat)

def trimZeros : Nat → Decimal → Decimal
  | 0, d => d
  | fuel + 1, d =>
    if d.digits ≠ 0 ∧ d.digits % 10 = 0 then trimZeros fuel ⟨d.digits / 10, d.exponent + 1⟩ else d

/-- The reals that are rounded to a number: from `low` to `high` in quarters of the number's unit,
the ends included or not. -/
structure Interval where
  low : Nat
  mid : Nat
  high : Nat
  exponent : Int
  closed : Bool
  deriving DecidableEq, Repr

/-- The reals that are rounded to a number. Below a power of two the next number is only half as
far. -/
def Interval.of (x : Binary64) : Interval where
  low := if x.mantissa = Nat.pow 2 52 ∧ x.exponent > Binary64.minExponent then 4 * x.mantissa - 1
    else 4 * x.mantissa - 2
  mid := 4 * x.mantissa
  high := 4 * x.mantissa + 2
  exponent := x.exponent - 2
  closed := x.mantissa % 2 = 0

def Interval.contains (i : Interval) (d : Decimal) : Bool :=
  let (n, m) := ratio d.digits 10 d.exponent
  let (low, u) := ratio i.low 2 i.exponent
  let (high, _) := ratio i.high 2 i.exponent
  if i.closed then low * m ≤ n * u && n * u ≤ high * m else low * m < n * u && n * u < high * m

def Interval.nearest? (i : Interval) (exponent : Int) : Option Decimal :=
  let (n, d) := ratio i.mid 2 i.exponent
  let (p, q) := ratio 1 10 exponent
  let num := n * q
  let den := d * p
  let below : Decimal := ⟨num / den, exponent⟩
  let above : Decimal := ⟨num / den + 1, exponent⟩
  let near : Decimal := ⟨divEven num den, exponent⟩
  if i.contains near then some near
  else if i.contains below then some below
  else if i.contains above then some above
  else none

def search (i : Interval) : Nat → Int → Option Decimal
  | 0, _ => none
  | fuel + 1, exponent =>
    match i.nearest? exponent with
    | some d => if d.digits = 0 then search i fuel (exponent - 1) else some d
    | none => search i fuel (exponent - 1)

def width (n : Nat) : Nat :=
  (Nat.toDigits 10 n).length

/-- The place of the first digit of a ratio, or one more: ten to it exceeds the ratio. -/
def magnitude (num den : Nat) : Int :=
  (width num : Int) - width den + 1

def shortest (x : Binary64) : Decimal :=
  if x.mantissa = 0 then ⟨0, 0⟩
  else
    let i := Interval.of x
    let (n, d) := ratio i.mid 2 i.exponent
    trimZeros 20 ((search i 22 (magnitude n d)).getD ⟨0, 0⟩)

end Decimal

/-! ## Writing -/

/-- How a decimal is written: up to which place before the point and from which place behind it
positional notation is used, and what marks an exponent. -/
structure Notation where
  maxInteger : Int
  minFraction : Int
  exponentMark : Char

def Notation.write (f : Notation) (d : Decimal) : Text :=
  let digits := Text.ofNat d.digits
  let size : Int := digits.length
  let point := size + d.exponent
  if d.exponent ≥ 0 && point ≤ f.maxInteger then
    digits ++ List.replicate d.exponent.toNat '0' ++ ".0".toList
  else if 0 < point && point ≤ f.maxInteger then
    digits.take point.toNat ++ '.' :: digits.drop point.toNat
  else if f.minFraction < point && point ≤ 0 then
    "0.".toList ++ List.replicate (-point).toNat '0' ++ digits
  else
    let exponent := f.exponentMark :: (toString (point - 1)).toList
    match digits with
    | [d] => d :: exponent
    | d :: ds => d :: '.' :: ds ++ exponent
    | [] => exponent

end SecretWeave
