import SecretWeave.Decimal.Read
import SecretWeave.Text.Digits
import SecretWeave.Yaml.Value

/-!
# Plain scalars

What a scalar without quotes and without a tag means. A few words are null or a truth value; what
looks like a number is one; everything else is a string. Digits with a leading zero are no number.
Integers that need more than 64 bits have no meaning at all, unless they need more than 128, where
they are floating point numbers.
-/

namespace SecretWeave.Yaml

/-! ## 1. Words -/

def nullWords : List Text := ["null", "Null", "NULL", "~"].map String.toList

def trueWords : List Text := ["true", "True", "TRUE"].map String.toList

def falseWords : List Text := ["false", "False", "FALSE"].map String.toList

def isNull (s : Text) : Bool :=
  nullWords.contains s

def readBool? (s : Text) : Option Bool :=
  if trueWords.contains s then some true
  else if falseWords.contains s then some false
  else none

/-! ## 2. Integers -/

def baseMarks : List (Text × Nat) :=
  [("0x".toList, 16), ("0o".toList, 8), ("0b".toList, 2)]

def isPaddedDigits (s : Text) : Bool :=
  let ds := (Binary64.splitSign s).2
  ds.length > 1 && ds.head? == some '0' && ds.all Char.isDigit

def readMarked? (limit : Nat) (s : Text) : Option Nat :=
  baseMarks.findSome? fun (mark, base) =>
    (Text.after? mark s).bind fun ds =>
      (Text.readDigits? base ds).bind fun n => if n < limit then some n else none

/-- The natural number below a limit that a text means, after an optional plus sign. -/
def readNatural? (limit : Nat) (s : Text) : Option Nat :=
  let body := match s with
    | '+' :: r => r
    | s => s
  (readMarked? limit body).or <|
    if isPaddedDigits s then none
    else (Text.readDigits? 10 body).bind fun n => if n < limit then some n else none

def readNegative? (limit : Nat) : Text → Option Nat
  | '-' :: r =>
    (readMarked? (limit + 1) r).or <|
      if isPaddedDigits r then none
      else (Text.readDigits? 10 r).bind fun n => if n ≤ limit then some n else none
  | _ => none

inductive IntegerReading where
  | fits (n : Number)
  | tooWide
  | notInteger
  deriving DecidableEq, Repr

def readInteger (s : Text) : IntegerReading :=
  match readNatural? (Nat.pow 2 64) s with
  | some n => .fits (.natural n)
  | none =>
    match readNegative? (Nat.pow 2 63) s with
    | some n => .fits (if n = 0 then .natural 0 else .negative n)
    | none =>
      if (readNatural? (Nat.pow 2 128) s).isSome || (readNegative? (Nat.pow 2 127) s).isSome then .tooWide
      else .notInteger

/-! ## 3. Floating point numbers -/

def infinityWords : List Text := [".inf", ".Inf", ".INF"].map String.toList

def nanWords : List Text := [".nan", ".NaN", ".NAN"].map String.toList

def readFloat? (s : Text) : Option Number :=
  let signed := match s with
    | '+' :: '+' :: _ => none
    | '+' :: '-' :: _ => none
    | '+' :: r => some r
    | s => some s
  signed.bind fun r =>
    if infinityWords.contains r then some (.infinite false)
    else if infinityWords.any fun w => s == '-' :: w then some (.infinite true)
    else if nanWords.contains s then some .nan
    else (Binary64.read? r).map .float

/-! ## 4. Scalars -/

def readPlain? (s : Text) : Option Value :=
  if s.isEmpty || isNull s then some .null
  else
    match readBool? s with
    | some b => some (.bool b)
    | none =>
      match readInteger s with
      | .fits n => some (.number n)
      | .tooWide => none
      | .notInteger =>
        match if isPaddedDigits s then none else readFloat? s with
        | some n => some (.number n)
        | none => some (.string s)

end SecretWeave.Yaml
