import SecretWeave.Decimal.Shortest

/-!
# Values of a document

What a document says: nulls, truth values, numbers, strings, sequences, mappings, and values with a
tag of their own. Two keys of a mapping clash when they are the same value. The order of a
mapping's entries does not matter for that, and neither does the sign of a zero.
-/

namespace SecretWeave.Yaml

inductive Number where
  | natural (n : Nat)
  | negative (n : Nat)
  | float (x : Binary64)
  | infinite (below : Bool)
  | nan
  deriving DecidableEq, Repr

inductive Value where
  | null
  | bool (b : Bool)
  | number (n : Number)
  | string (t : Text)
  | sequence (vs : List Value)
  | mapping (es : List (Value × Value))
  | tagged (tag : Text) (v : Value)
  deriving Repr

namespace Number

def same : Number → Number → Bool
  | .float x, .float y => x == y || (x.mantissa == 0 && y.mantissa == 0)
  | m, n => m == n

/-- How floating point numbers are written: with up to 16 digits before the point and up to four
zeros behind it, and else with `e`. -/
def floatStyle : Notation := ⟨16, -5, 'e'⟩

def text : Number → Text
  | .natural n => Text.ofNat n
  | .negative n => '-' :: Text.ofNat n
  | .float x =>
    (if x.negative then ['-'] else []) ++ floatStyle.write (Decimal.shortest x)
  | .infinite below => if below then "-.inf".toList else ".inf".toList
  | .nan => ".nan".toList

end Number

namespace Value

def bareTag : Text → Text
  | '!' :: c :: r => c :: r
  | t => t

mutual

def same : Value → Value → Bool
  | .null, .null => true
  | .bool a, .bool b => a == b
  | .number a, .number b => a.same b
  | .string a, .string b => a == b
  | .sequence a, .sequence b => sameAll a b
  | .mapping a, .mapping b => a.length == b.length && within a b
  | .tagged s a, .tagged t b => bareTag s == bareTag t && same a b
  | _, _ => false

def sameAll : List Value → List Value → Bool
  | [], [] => true
  | a :: as, b :: bs => same a b && sameAll as bs
  | _, _ => false

def within : List (Value × Value) → List (Value × Value) → Bool
  | [], _ => true
  | (k, v) :: es, fs => (fs.any fun f => same k f.1 && same v f.2) && within es fs

end

end Value

end SecretWeave.Yaml
