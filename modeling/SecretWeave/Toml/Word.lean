import SecretWeave.Decimal.Read
import SecretWeave.Text.Digits
import SecretWeave.Toml.Value

/-!
# Bare words

Truth values, numbers and dates are written without quotes. A word is checked for its form, and
a number for its range: integers have 64 bits, and a positive floating point number is not too large
to be finite.
-/

namespace SecretWeave.Toml.Word

/-! ## 1. Dates and times -/

def number? (size low high : Nat) (s : Text) : Option Text :=
  if size ≤ s.length then
    (Text.readDigits? 10 (s.take size)).bind fun n =>
      if low ≤ n ∧ n ≤ high then some (s.drop size) else none
  else none

def mark? (m : Char) : Text → Option Text
  | [] => none
  | c :: r => if c = m then some r else none

def daysOf (year month : Nat) : Nat :=
  if month = 2 then
    if year % 4 = 0 ∧ (year % 100 ≠ 0 ∨ year % 400 = 0) then 29 else 28
  else if month = 4 ∨ month = 6 ∨ month = 9 ∨ month = 11 then 30
  else 31

def date? (s : Text) : Option Text := do
  let r ← number? 4 0 9999 s
  let r ← mark? '-' r
  let month ← Text.readDigits? 10 (r.take 2)
  let r ← number? 2 1 12 r
  let r ← mark? '-' r
  let year ← Text.readDigits? 10 (s.take 4)
  number? 2 1 (daysOf year month) r

def time? (s : Text) : Option Text := do
  let r ← number? 2 0 23 s
  let r ← mark? ':' r
  let r ← number? 2 0 59 r
  let r ← mark? ':' r
  let r ← number? 2 0 60 r
  match r with
  | '.' :: d :: f => if d.isDigit then some (f.dropWhile Char.isDigit) else none
  | r => some r

def distance? (s : Text) : Option Text := do
  let r ← number? 2 0 23 s
  let r ← mark? ':' r
  number? 2 0 59 r

def isOffset : Text → Bool
  | [] => true
  | ['Z'] => true
  | ['z'] => true
  | '+' :: r => distance? r == some []
  | '-' :: r => distance? r == some []
  | _ => false

def isDate (s : Text) : Bool :=
  date? s == some []

def isDatetime (s : Text) : Bool :=
  match date? s with
  | some [] => true
  | some (c :: r) =>
    (c == 'T' || c == 't' || c == ' ') &&
      match time? r with
      | some r => isOffset r
      | none => false
  | none => time? s == some []

/-! ## 2. Numbers -/

def isDigits (isDigit : Char → Bool) (s : Text) : Bool :=
  (Text.split '_' s).all fun p => !p.isEmpty && p.all isDigit

def digitsOf (s : Text) : Text :=
  s.filter (· != '_')

def isWhole (s : Text) : Bool :=
  isDigits Char.isDigit s && (s.head? != some '0' || s.length == 1)

def isDigitOf (base : Nat) (c : Char) : Bool :=
  (Text.appendDigit? base 0 c).isSome

/-- Whether digits of a base, perhaps with underscores, stand for a number up to a limit. -/
def isBelow (base limit : Nat) (s : Text) : Bool :=
  isDigits (isDigitOf base) s &&
    match Text.readDigits? base (digitsOf s) with
    | some n => n < limit
    | none => false

def isInteger : Text → Bool
  | '0' :: 'x' :: r => isBelow 16 (Nat.pow 2 63) r
  | '0' :: 'o' :: r => isBelow 8 (Nat.pow 2 63) r
  | '0' :: 'b' :: r => isBelow 2 (Nat.pow 2 63) r
  | '-' :: r => isWhole r && isBelow 10 (Nat.pow 2 63 + 1) r
  | '+' :: r => isWhole r && isBelow 10 (Nat.pow 2 63) r
  | r => isWhole r && isBelow 10 (Nat.pow 2 63) r

def isExponent (s : Text) : Bool :=
  isDigits Char.isDigit (Binary64.splitSign s).2

def isFraction : Text → Bool
  | 'e' :: r => isExponent r
  | 'E' :: r => isExponent r
  | '.' :: r =>
    isDigits Char.isDigit (r.takeWhile fun c => c != 'e' && c != 'E') &&
      match r.dropWhile fun c => c != 'e' && c != 'E' with
      | [] => true
      | _ :: x => isExponent x
  | _ => false

def isFloat (s : Text) : Bool :=
  let unsigned := (Binary64.splitSign s).2
  let stops := fun c => c == '.' || c == 'e' || c == 'E'
  unsigned == "inf".toList || unsigned == "nan".toList ||
    (isWhole (unsigned.takeWhile fun c => !stops c) &&
      isFraction (unsigned.dropWhile fun c => !stops c) &&
      (s.head? == some '-' || (Binary64.read? (digitsOf s)).isSome))

/-! ## 3. Words -/

def isWordChar (c : Char) : Bool :=
  c.isAlphanum || ['+', '-', '_', '.', ':'].contains c

def value? (s : Text) : Option Value :=
  if s = "true".toList ∨ s = "false".toList then some .boolean
  else if isDatetime s then some .datetime
  else if isFloat s then some .float
  else if isInteger s then some .integer
  else none

/-- The value at the start of a text and what follows. A blank may stand between a date and
a time. -/
def read (s : Text) : Option (Value × Text) :=
  let word := s.takeWhile isWordChar
  let rest := s.dropWhile isWordChar
  match rest with
  | ' ' :: r =>
    let both := word ++ ' ' :: r.takeWhile isWordChar
    if isDate word && isDatetime both then some (.datetime, r.dropWhile isWordChar)
    else (value? word).map (·, rest)
  | _ => (value? word).map (·, rest)

end SecretWeave.Toml.Word
