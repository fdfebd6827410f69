import SecretWeave.Disk
import SecretWeave.Shell.Integer
import SecretWeave.Shell.Octets

/-!
# Tests

What `test` finds: comparisons of texts and integers, questions about files, and these joined by
`!`, `-a`, `-o` and parentheses. Up to four arguments are read by their number, so that an operand
may look like a sign.
-/

namespace SecretWeave.Shell

inductive TestSign where
  | or | and | not | opening | closing
  | unary (letter : Char)
  | binary (sign : Text)
  deriving DecidableEq

namespace Test

/-! ## 1. Signs -/

def unaryLetters : List Char :=
  ['r', 'w', 'x', 'e', 'f', 'd', 'c', 'b', 'p', 'u', 'g', 'k', 's', 't', 'z', 'n', 'h', 'O', 'G',
    'L', 'S']

def binarySigns : List Text :=
  ["=", "!=", "<", ">", "-eq", "-ne", "-ge", "-gt", "-le", "-lt", "-nt", "-ot", "-ef"].map
    String.toList

def signOf? (t : Text) : Option TestSign :=
  match t with
  | ['!'] => some .not
  | ['('] => some .opening
  | [')'] => some .closing
  | ['-', 'a'] => some .and
  | ['-', 'o'] => some .or
  | _ =>
    if binarySigns.contains t then some (.binary t)
    else
      match t with
      | ['-', c] => if unaryLetters.contains c then some (.unary c) else none
      | _ => none

def isComparison (t : Text) : Bool :=
  match signOf? t with
  | some (.binary _) => true
  | _ => false

def signAt (ts : List Text) : Option TestSign :=
  match ts with
  | [] => none
  | t :: r =>
    match signOf? t with
    | some (.unary c) =>
      match r with
      | [] => none
      | [_] => some (.unary c)
      | s :: u :: _ => if isComparison s && u != [')'] then none else some (.unary c)
    | some .opening => if r.isEmpty then none else some .opening
    | sign => sign

/-! ## 2. Questions -/

def nodeAt (d : Disk) (path : Text) : Option Node :=
  match d.find (Text.unoctets path) with
  | .ok (_, n) => some n
  | .error _ => none

def ask (d : Disk) (letter : Char) (operand : Text) : Option Bool :=
  let node := nodeAt d operand
  let mode := fun (bit : Nat) => match node with
    | some (.file mode _) => mode / bit % 2 = 1
    | _ => false
  match letter with
  | 'z' => some operand.isEmpty
  | 'n' => some !operand.isEmpty
  | 't' => (integer? (some 10) operand).map fun _ => false
  | 'f' => some (match node with
    | some (.file _ _) | some (.program _) => true
    | _ => false)
  | 'd' => some (node == some .directory)
  | 'c' => some (match node with
    | some (.device .input) | some (.device .output) | some (.device .messages) => false
    | some (.device _) => true
    | _ => false)
  | 's' => some (match node with
    | some (.file _ content) => !content.isEmpty
    | some (.device _) => false
    | some _ => true
    | none => false)
  | 'x' => some (match node with
    | some (.file mode _) => mode / 0o100 % 2 = 1 || mode / 0o10 % 2 = 1 || mode % 2 = 1
    | some (.device _) => false
    | some _ => true
    | none => false)
  | 'u' => some (mode 0o4000)
  | 'g' => some (mode 0o2000)
  | 'k' => some (mode 0o1000)
  | 'b' => some false
  | 'h' => some false
  | 'L' => some false
  | 'S' => some false
  | 'p' => some (match node with
    | some (.device .input) | some (.device .output) | some (.device .messages) => true
    | _ => false)
  | _ => some node.isSome

def compare (d : Disk) (sign a b : Text) : Option Bool :=
  let numbers := fun (f : Int → Int → Bool) =>
    match integer? (some 10) a, integer? (some 10) b with
    | some m, some n => some (f m n)
    | _, _ => none
  match String.ofList sign with
  | "=" => some (a == b)
  | "!=" => some (a != b)
  | "<" => some (a < b)
  | ">" => some (b < a)
  | "-eq" => numbers fun m n => m == n
  | "-ne" => numbers fun m n => m != n
  | "-ge" => numbers fun m n => n ≤ m
  | "-gt" => numbers fun m n => n < m
  | "-le" => numbers fun m n => m ≤ n
  | "-lt" => numbers fun m n => m < n
  | "-ef" =>
    match d.find (Text.unoctets a), d.find (Text.unoctets b) with
    | .ok (l, _), .ok (m, _) => some (l == m)
    | _, _ => some false
  | _ => some false

/-! ## 3. Expressions -/

abbrev Found := Option (Bool × List Text)

def primary (d : Disk) (whole : List Text → Found) (ts : List Text) : Found :=
  match ts with
  | [] => some (false, [])
  | t :: r =>
    match signAt (t :: r) with
    | some .opening =>
      if signAt r = some .closing then some (false, r)
      else
        match whole r with
        | some (b, last) =>
          if signAt last.tail = some .closing then some (b, last.tail) else none
        | none => none
    | some (.unary c) =>
      match r with
      | [] => none
      | a :: _ => (ask d c a).map fun b => (b, r)
    | _ =>
      match signAt r with
      | some (.binary s) =>
        match r with
        | _ :: b :: rest => (compare d s t b).map fun v => (v, b :: rest)
        | _ => none
      | _ => some (!t.isEmpty, ts)

def negated (d : Disk) (whole : List Text → Found) : Nat → List Text → Found
  | 0, _ => none
  | n + 1, ts =>
    if signAt ts = some .not then
      match ts.tail with
      | [] => some (true, ts)
      | r => (negated d whole n r).map fun p => (!p.1, p.2)
    else primary d whole ts

def conjunction (d : Disk) (whole : List Text → Found) : Nat → Bool → List Text → Found
  | 0, _, _ => none
  | n + 1, sofar, ts =>
    match negated d whole (ts.length + 1) ts with
    | none => none
    | some (b, last) =>
      if signAt last.tail = some .and then conjunction d whole n (sofar && b) last.tail.tail
      else some (sofar && b, last)

def disjunction (d : Disk) (whole : List Text → Found) : Nat → Bool → List Text → Found
  | 0, _, _ => none
  | n + 1, sofar, ts =>
    match conjunction d whole (ts.length + 1) true ts with
    | none => none
    | some (b, last) =>
      if signAt last.tail = some .or then disjunction d whole n (sofar || b) last.tail.tail
      else some (sofar || b, last)

def expression (d : Disk) : Nat → List Text → Found
  | 0, _ => none
  | n + 1, ts => disjunction d (expression d n) (ts.length + 1) false ts

def whole (d : Disk) (ts : List Text) : Option Bool :=
  match expression d (ts.length + 1) ts with
  | some (b, last) => if last.length ≤ 1 then some b else none
  | none => none

def comparison (d : Disk) : List Text → Option Bool
  | [a, sign, b] => compare d sign a b
  | _ => none

def few (d : Disk) (again : List Text → Option Bool) (ts : List Text) : Option Bool :=
  if ts.head? = some ['('] && ts.getLast? = some [')'] then whole d ts.tail.dropLast
  else if ts.head? = some ['!'] then (again ts.tail).map (!·)
  else whole d ts

end Test

def test (d : Disk) (ts : List Text) : Option Bool :=
  match ts with
  | [] => some false
  | [a, s, b] => three a s b
  | [a, b, c, e] =>
    Test.few d (fun
      | [a, s, b] => three a s b
      | ts => Test.whole d ts) [a, b, c, e]
  | ts => Test.whole d ts
where
  three (a s b : Text) : Option Bool :=
    if Test.isComparison s then Test.comparison d [a, s, b]
    else Test.few d (Test.whole d) [a, s, b]

end SecretWeave.Shell
