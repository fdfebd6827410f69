import SecretWeave.Decimal.Binary64
import SecretWeave.Text.Basic

/-!
# Reading decimals

The text of a decimal is an optional sign, digits with an optional point among them, and an
optional exponent. At least one digit stands before or behind the point. The number it stands for
is the nearest floating point number; a text that stands for a number too large to be finite has
none.
-/

namespace SecretWeave.Binary64

def splitSign : Text → Bool × Text
  | '-' :: r => (true, r)
  | '+' :: r => (false, r)
  | s => (false, s)

def digitsValue (ds : Text) : Nat :=
  ds.foldl (fun n d => n * 10 + (d.toNat - 48)) 0

def readExponent? (s : Text) : Option Int :=
  let (negative, ds) := splitSign s
  if ds.isEmpty || !ds.all Char.isDigit then none
  else some (if negative then -(digitsValue ds : Int) else digitsValue ds)

/-- Beyond this place a first digit makes the number infinite, and as far behind the point it
makes it zero. -/
def maxPlace : Int := 400

def ofDecimal (negative : Bool) (digits : Text) (exponent : Int) : Option Binary64 :=
  let ds := digits.dropWhile (· == '0')
  let n := digitsValue ds
  let place : Int := ds.length + exponent
  if n = 0 || place < -maxPlace then ofRatio negative 0 1
  else if place > maxPlace then none
  else if exponent ≥ 0 then ofRatio negative (n * Nat.pow 10 exponent.toNat) 1
  else ofRatio negative n (Nat.pow 10 (-exponent).toNat)

def read? (s : Text) : Option Binary64 :=
  let (negative, s) := splitSign s
  let whole := s.takeWhile Char.isDigit
  let rest := s.dropWhile Char.isDigit
  let (fraction, rest) := match rest with
    | '.' :: r => (r.takeWhile Char.isDigit, r.dropWhile Char.isDigit)
    | r => ([], r)
  if whole.isEmpty && fraction.isEmpty then none
  else
    let exponent := match rest with
      | [] => some 0
      | c :: r => if c == 'e' || c == 'E' then readExponent? r else none
    exponent.bind fun e => ofDecimal negative (whole ++ fraction) (e - fraction.length)

end SecretWeave.Binary64
