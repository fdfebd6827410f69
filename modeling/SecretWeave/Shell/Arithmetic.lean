import SecretWeave.Shell.Integer
import SecretWeave.Text.Name

/-!
# Arithmetic

Expressions over integers of 64 bits with the operators of C, assignments among them. An expression
is read as a whole, then its value is found; what need not be known is not looked at. The values of
variables are texts, which are read when they are needed.
-/

namespace SecretWeave.Shell.Arithmetic

/-! ## 1. Expressions -/

inductive Operator where
  | times | over | modulo | plus | minus | left | right
  | less | atMost | more | atLeast | equal | unequal | and | xor | or
  deriving DecidableEq, Repr

inductive Expression where
  | number (n : Int)
  | variable (name : Text)
  | negate (e : Expression)
  | isZero (e : Expression)
  | flip (e : Expression)
  | binary (o : Operator) (a b : Expression)
  | both (a b : Expression)
  | either (a b : Expression)
  | choice (condition yes no : Expression)
  | store (name : Text) (operator : Option Operator) (e : Expression)
  deriving Repr

inductive Defect where
  | unreadable
  | zeroDivision
  | badNumber (value : Text)
  deriving DecidableEq, Repr

/-! ## 2. Reading -/

inductive Lexeme where
  | number (n : Int)
  | name (name : Text)
  | sign (sign : Text)
  deriving DecidableEq

def signs : List Text :=
  ["<<=", ">>=", "==", "!=", "<=", ">=", "&&", "||", "<<", ">>", "+=", "-=", "*=", "/=", "%=", "&=",
    "^=", "|=", "+", "-", "*", "/", "%", "<", ">", "&", "|", "^", "!", "~", "(", ")", "?", ":",
    "="].map String.toList

def signOf? (s : Text) : Option (Text × Text) :=
  signs.findSome? fun sign => (Text.after? sign s).map fun r => (sign, r)

def clamp (n : Int) : Int :=
  max minInteger (min n maxInteger)

def lexemes : Nat → Text → Option (List Lexeme)
  | 0, _ => none
  | _ + 1, [] => some []
  | n + 1, c :: r =>
    if c = ' ' || c = '\t' || c = '\n' then lexemes n r
    else if c.isDigit then
      match naturalAt (c :: r) with
      | some (v, r) => (lexemes n r).map (.number (clamp v) :: ·)
      | none => none
    else if Text.startsName c then
      (lexemes n (r.dropWhile Text.continuesName)).map
        (.name (c :: r.takeWhile Text.continuesName) :: ·)
    else
      match signOf? (c :: r) with
      | some (s, r) => (lexemes n r).map (.sign s :: ·)
      | none => none

def levels : List (List (Text × Operator)) :=
  [[("*", .times), ("/", .over), ("%", .modulo)], [("+", .plus), ("-", .minus)],
    [("<<", .left), (">>", .right)],
    [("<", .less), ("<=", .atMost), (">", .more), (">=", .atLeast)],
    [("==", .equal), ("!=", .unequal)], [("&", .and)], [("^", .xor)], [("|", .or)]].map fun l =>
      l.map fun p => (p.1.toList, p.2)

def assigning? (sign : Text) : Option (Option Operator) :=
  if sign = ['='] then some none
  else
    match sign.getLast?, (levels.flatten.lookup sign.dropLast) with
    | some '=', some o =>
      if [Operator.less, .more, .equal, .atMost, .atLeast, .unequal].contains o then none
      else some (some o)
    | _, _ => none

abbrev Parsed := Option (Expression × List Lexeme)

def readPrimary (whole : List Lexeme → Parsed) : List Lexeme → Parsed
  | .number n :: r => some (.number n, r)
  | .name n :: r => some (.variable n, r)
  | .sign ['+'] :: r => readPrimary whole r
  | .sign ['-'] :: r => (readPrimary whole r).map fun p => (.negate p.1, p.2)
  | .sign ['!'] :: r => (readPrimary whole r).map fun p => (.isZero p.1, p.2)
  | .sign ['~'] :: r => (readPrimary whole r).map fun p => (.flip p.1, p.2)
  | .sign ['('] :: r =>
    match whole r with
    | some (e, .sign [')'] :: r) => some (e, r)
    | _ => none
  | _ => none

def readMore (operand : List Lexeme → Parsed) (level : List (Text × Operator)) :
    Nat → Expression → List Lexeme → Parsed
  | 0, _, _ => none
  | n + 1, e, r =>
    match r with
    | .sign s :: r' =>
      match level.lookup s with
      | some o =>
        match operand r' with
        | some (f, r) => readMore operand level n (.binary o e f) r
        | none => none
      | none => some (e, r)
    | _ => some (e, r)

def readLevels (whole : List Lexeme → Parsed) : List (List (Text × Operator)) → List Lexeme → Parsed
  | [], r => readPrimary whole r
  | level :: stronger, r =>
    match readLevels whole stronger r with
    | some (e, r) => readMore (readLevels whole stronger) level (r.length + 1) e r
    | none => none

def readBoth (whole : List Lexeme → Parsed) : Nat → List Lexeme → Parsed
  | 0, _ => none
  | n + 1, r =>
    match readLevels whole levels.reverse r with
    | some (e, .sign ['&', '&'] :: r) =>
      (readBoth whole n r).map fun p => (.both e p.1, p.2)
    | p => p

def readEither (whole : List Lexeme → Parsed) : Nat → List Lexeme → Parsed
  | 0, _ => none
  | n + 1, r =>
    match readBoth whole (r.length + 1) r with
    | some (e, .sign ['|', '|'] :: r) =>
      (readEither whole n r).map fun p => (.either e p.1, p.2)
    | p => p

def readChoice (whole : List Lexeme → Parsed) : Nat → List Lexeme → Parsed
  | 0, _ => none
  | n + 1, r =>
    match readEither whole (r.length + 1) r with
    | some (e, .sign ['?'] :: r) =>
      match whole r with
      | some (yes, .sign [':'] :: r) =>
        (readChoice whole n r).map fun p => (.choice e yes p.1, p.2)
      | _ => none
    | p => p

def readWhole : Nat → List Lexeme → Parsed
  | 0, _ => none
  | n + 1, r =>
    let plain := readChoice (readWhole n) (r.length + 1) r
    match r with
    | .name x :: .sign s :: r' =>
      match assigning? s with
      | some o => (readWhole n r').map fun p => (.store x o p.1, p.2)
      | none => plain
    | _ => plain

def readExpression (s : Text) : Option Expression :=
  match lexemes (s.length + 1) s with
  | none => none
  | some ls =>
    match readWhole (ls.length + 1) ls with
    | some (e, []) => some e
    | _ => none

/-! ## 3. Values -/

abbrev Known := List (Text × Text)

def numberOf (value : Text) : Except Defect Int :=
  if value.all isSpace then .ok 0
  else
    match integer? none value with
    | some n => .ok n
    | none => .error (.badNumber value)

def truth (p : Bool) : Int := if p then 1 else 0

def bits (n : Int) : Nat := (n % Int.pow 2 64).toNat

def apply (o : Operator) (a b : Int) : Except Defect Int :=
  match o with
  | .times => .ok (wrap (a * b))
  | .over => if b = 0 then .error .zeroDivision else .ok (wrap (a.tdiv b))
  | .modulo => if b = 0 then .error .zeroDivision else .ok (wrap (a.tmod b))
  | .plus => .ok (wrap (a + b))
  | .minus => .ok (wrap (a - b))
  | .left => .ok (wrap (a * Int.pow 2 (bits b % 64)))
  | .right => .ok (a.fdiv (Int.pow 2 (bits b % 64)))
  | .less => .ok (truth (a < b))
  | .atMost => .ok (truth (a ≤ b))
  | .more => .ok (truth (b < a))
  | .atLeast => .ok (truth (b ≤ a))
  | .equal => .ok (truth (a = b))
  | .unequal => .ok (truth (a ≠ b))
  | .and => .ok (wrap (bits a &&& bits b : Nat))
  | .xor => .ok (wrap (bits a ^^^ bits b : Nat))
  | .or => .ok (wrap (bits a ||| bits b : Nat))

def eval (known : Known) : Expression → Except Defect (Int × Known)
  | .number n => .ok (n, known)
  | .variable x =>
    match numberOf ((known.lookup x).getD []) with
    | .ok n => .ok (n, known)
    | .error d => .error d
  | .negate e =>
    match eval known e with
    | .ok (n, known) => .ok (wrap (-n), known)
    | .error d => .error d
  | .isZero e =>
    match eval known e with
    | .ok (n, known) => .ok (truth (n = 0), known)
    | .error d => .error d
  | .flip e =>
    match eval known e with
    | .ok (n, known) => .ok (-n - 1, known)
    | .error d => .error d
  | .binary o a b =>
    match eval known a with
    | .error d => .error d
    | .ok (m, known) =>
      match eval known b with
      | .error d => .error d
      | .ok (n, known) =>
        match apply o m n with
        | .error d => .error d
        | .ok v => .ok (v, known)
  | .both a b =>
    match eval known a with
    | .error d => .error d
    | .ok (m, known) =>
      if m = 0 then .ok (0, known)
      else
        match eval known b with
        | .error d => .error d
        | .ok (n, known) => .ok (truth (n ≠ 0), known)
  | .either a b =>
    match eval known a with
    | .error d => .error d
    | .ok (m, known) =>
      if m ≠ 0 then .ok (1, known)
      else
        match eval known b with
        | .error d => .error d
        | .ok (n, known) => .ok (truth (n ≠ 0), known)
  | .choice c yes no =>
    match eval known c with
    | .error d => .error d
    | .ok (m, known) => if m ≠ 0 then eval known yes else eval known no
  | .store x o e =>
    match eval known e with
    | .error d => .error d
    | .ok (n, known) =>
      let stored : Except Defect Int := match o with
        | none => .ok n
        | some o =>
          match numberOf ((known.lookup x).getD []) with
          | .error d => .error d
          | .ok m => apply o m n
      match stored with
      | .error d => .error d
      | .ok v => .ok (v, (x, ofInteger v) :: known)

end SecretWeave.Shell.Arithmetic
