import SecretWeave.Decimal.Read
import SecretWeave.Decimal.Shortest
import SecretWeave.Shell.Integer

/-!
# Formats

How `echo` and `printf` write their arguments: escapes, and values laid out in fields. The built-in
programs and those of the disk differ in a few points.
-/

namespace SecretWeave.Shell

inductive Dialect where
  | shell
  | program
  deriving DecidableEq

/-! ## 1. Escapes -/

def isOctal (c : Char) : Bool :=
  '0' ≤ c && c ≤ '7'

def octetOf (base count : Nat) (r : Text) : Option (Char × Text) :=
  let ds := (r.take count).takeWhile (isDigitOf base)
  (Text.readDigits? base ds).map fun n => (Char.ofNat (n % 256), r.drop ds.length)

def letterEscape? (c : Char) : Option Char :=
  [('\\', '\\'), ('a', '\x07'), ('b', '\x08'), ('e', '\x1b'), ('f', '\x0c'), ('n', '\n'),
    ('r', '\r'), ('t', '\t'), ('v', '\x0b')].lookup c

/-- What an escape behind its backslash stands for, and what follows it. What is no escape stands
for the backslash. -/
def escapeAt (dialect : Dialect) (r : Text) : Text × Text :=
  match r with
  | [] => (['\\'], [])
  | c :: r' =>
    if isOctal c then
      match octetOf 8 3 r with
      | some (o, r) => ([o], r)
      | none => (['\\'], r)
    else
      match letterEscape? c with
      | some e => ([e], r')
      | none =>
        if dialect = .program && c = 'x' then
          match octetOf 16 2 r' with
          | some (o, r) => ([o], r)
          | none => (['\\'], r)
        else if dialect = .program && c = '"' then (['"'], r')
        else (['\\'], r)

/-- A text with its escapes replaced, and whether it stops at one. An octet may have a zero in front
of its digits. The number bounds the steps. -/
def unescapeWithin (dialect : Dialect) : Nat → Text → Text × Bool
  | 0, _ => ([], false)
  | _ + 1, [] => ([], false)
  | n + 1, '\\' :: r =>
    match r with
    | 'c' :: _ => ([], true)
    | '0' :: d :: _ =>
      let p := escapeAt dialect (if isOctal d then r.drop 1 else r)
      let q := unescapeWithin dialect n p.2
      (p.1 ++ q.1, q.2)
    | r =>
      let p := escapeAt dialect r
      let q := unescapeWithin dialect n p.2
      (p.1 ++ q.1, q.2)
  | n + 1, c :: r =>
    let q := unescapeWithin dialect n r
    (c :: q.1, q.2)

def unescape (dialect : Dialect) (t : Text) : Text × Bool :=
  unescapeWithin dialect (t.length + 1) t

def spaced (ts : List Text) : Text :=
  (ts.intersperse [' ']).flatten

def isEchoOption (a : Text) : Bool :=
  match a with
  | '-' :: c :: r => (c :: r).all ['n', 'e', 'E'].contains
  | _ => false

def echo (dialect : Dialect) (args : List Text) : Text :=
  match dialect with
  | .shell =>
    let (unfinished, ts) := match args with
      | ['-', 'n'] :: ts => (true, ts)
      | ts => (false, ts)
    let (body, stopped) := unescape .shell (spaced ts)
    if unfinished || stopped then body else body ++ ['\n']
  | .program =>
    let options := (args.takeWhile isEchoOption).flatten
    let ts := args.dropWhile isEchoOption
    let escapes := (options.filter fun c => c = 'e' || c = 'E').getLast? = some 'e'
    let (body, stopped) := if escapes then unescape .program (spaced ts) else (spaced ts, false)
    if options.contains 'n' || stopped then body else body ++ ['\n']

/-! ## 2. Fields -/

structure Layout where
  flags : List Char
  width : Nat
  precision : Option Nat

namespace Layout

def pad (l : Layout) (t : Text) : Text :=
  let spaces := List.replicate (l.width - t.length) ' '
  if l.flags.contains '-' then t ++ spaces else spaces ++ t

def padNumber (l : Layout) (zeros : Bool) (sign digits : Text) : Text :=
  if zeros && l.flags.contains '0' && !l.flags.contains '-' then
    sign ++ List.replicate (l.width - sign.length - digits.length) '0' ++ digits
  else l.pad (sign ++ digits)

def sign (l : Layout) (negative : Bool) : Text :=
  if negative then ['-']
  else if l.flags.contains '+' then ['+']
  else if l.flags.contains ' ' then [' ']
  else []

def digits (l : Layout) (ds : Text) : Text :=
  match l.precision with
  | some 0 => if ds = ['0'] then [] else ds
  | some p => List.replicate (p - ds.length) '0' ++ ds
  | none => ds

def integer (l : Layout) (n : Int) : Text :=
  l.padNumber l.precision.isNone (l.sign (n < 0)) (l.digits (Text.ofNat n.natAbs))

def natural (l : Layout) (conversion : Char) (n : Nat) : Text :=
  let marked := l.flags.contains '#' && n != 0
  match conversion with
  | 'o' =>
    let ds := l.digits (Nat.toDigits 8 n)
    l.padNumber l.precision.isNone []
      (if l.flags.contains '#' && ds.head? != some '0' then '0' :: ds else ds)
  | 'x' =>
    l.padNumber l.precision.isNone (if marked then ['0', 'x'] else [])
      (l.digits (Nat.toDigits 16 n))
  | 'X' =>
    l.padNumber l.precision.isNone (if marked then ['0', 'X'] else [])
      ((l.digits (Nat.toDigits 16 n)).map Char.toUpper)
  | _ => l.padNumber l.precision.isNone [] (l.digits (Text.ofNat n))

end Layout

/-! ## 3. Decimals -/

def pointed (marked : Bool) (places n : Nat) : Text :=
  let ds := Text.ofNat n
  let ds := List.replicate (places + 1 - ds.length) '0' ++ ds
  let whole := ds.take (ds.length - places)
  if places = 0 then (if marked then whole ++ ['.'] else whole)
  else whole ++ '.' :: ds.drop (ds.length - places)

def fixed (marked : Bool) (places num den : Nat) : Text :=
  pointed marked places (divEven (num * Nat.pow 10 places) den)

def scientificParts (places num den : Nat) : Nat × Int :=
  if num = 0 then (0, 0)
  else
    let k := Decimal.magnitude num den
    let scaled := fun (k : Int) =>
      let e := (places : Int) - k
      if e ≥ 0 then divEven (num * Nat.pow 10 e.toNat) den
      else divEven num (den * Nat.pow 10 (-e).toNat)
    let n := scaled k
    if n ≥ Nat.pow 10 (places + 1) then (scaled (k + 1), k + 1)
    else if n < Nat.pow 10 places then (scaled (k - 1), k - 1)
    else (n, k)

def exponentText (k : Int) : Text :=
  let ds := Text.ofNat k.natAbs
  'e' :: (if k < 0 then '-' else '+') :: (if ds.length < 2 then '0' :: ds else ds)

def scientific (marked : Bool) (places num den : Nat) : Text :=
  let (n, k) := scientificParts places num den
  pointed marked places n ++ exponentText k

def withoutZeros (t : Text) : Text :=
  if t.contains '.' then
    let t := (t.reverse.dropWhile (· == '0')).reverse
    if t.getLast? = some '.' then t.dropLast else t
  else t

def general (marked : Bool) (precision num den : Nat) : Text :=
  let p := max precision 1
  let (n, k) := scientificParts (p - 1) num den
  let trim := if marked then id else withoutZeros
  if -4 ≤ k && k < p then trim (fixed marked (p - 1 - k).toNat num den)
  else trim (pointed marked (p - 1) n) ++ exponentText k

def Layout.decimal (l : Layout) (conversion : Char) (x : Binary64) : Text :=
  let (num, den) := Decimal.ratio x.mantissa 2 x.exponent
  let p := l.precision.getD 6
  let marked := l.flags.contains '#'
  let body := match conversion.toLower with
    | 'f' => fixed marked p num den
    | 'e' => scientific marked p num den
    | _ => general marked p num den
  l.padNumber true (l.sign x.negative)
    (if conversion.isUpper then body.map Char.toUpper else body)

/-! ## 4. Formats -/

structure Written where
  text : Text
  bad : Bool
  stop : Option Bool
  args : List Text

def integerArgument (unsigned : Bool) (args : List Text) : Int × Bool × List Text :=
  match args with
  | [] => (0, true, [])
  | [] :: rest => (0, true, rest)
  | (c :: r) :: rest =>
    if c = '"' || c = '\'' then (((r.headD '\x00').toNat : Int), true, rest)
    else
      match integerAt none (c :: r) with
      | none => (0, false, rest)
      | some (n, r) =>
        let n' := if unsigned then min n (Int.pow 2 64 - 1) else max minInteger (min n maxInteger)
        (n', r.isEmpty && n = n', rest)

def decimalArgument (args : List Text) : Option Binary64 × Bool × List Text :=
  match args with
  | [] => (Binary64.read? ['0'], true, [])
  | [] :: rest => (Binary64.read? ['0'], true, rest)
  | (c :: r) :: rest =>
    if c = '"' || c = '\'' then
      (Binary64.read? (Text.ofNat (r.headD '\x00').toNat), true, rest)
    else
      let t := (c :: r).dropWhile isSpace
      -- the longest start that is a number
      let lengths := (List.range (t.length + 1)).reverse
      match lengths.findSome? fun n => (Binary64.read? (t.take n)).map fun x => (x, n) with
      | some (x, n) => (some x, n = t.length, rest)
      | none => (Binary64.read? ['0'], false, rest)

def sizeAt (r : Text) (args : List Text) : Option Int × Text × List Text :=
  match r with
  | '*' :: r =>
    let (n, _, args) := integerArgument false args
    (some n, r, args)
  | r => ((digitsAt 10 r).map fun p => (p.1 : Int), r.dropWhile Char.isDigit, args)

def layoutFlags : List Char := ['#', '-', '+', ' ', '0']

def layoutAt (r : Text) (args : List Text) : Layout × Text × List Text :=
  let flags := r.takeWhile layoutFlags.contains
  let (width, r, args) := sizeAt (r.dropWhile layoutFlags.contains) args
  let width := width.getD 0
  let flags := if width < 0 then '-' :: flags else flags
  match r with
  | '.' :: r =>
    let (precision, r, args) := sizeAt r args
    let precision := precision.getD 0
    (⟨flags, width.natAbs, if precision < 0 then none else some precision.toNat⟩, r, args)
  | r => (⟨flags, width.natAbs, none⟩, r, args)

def convert (dialect : Dialect) (l : Layout) (c : Char) (args : List Text) : Written :=
  let arg := args.headD []
  let cut := fun (t : Text) => (l.precision.map t.take).getD t
  match c with
  | 's' => ⟨l.pad (cut arg), false, none, args.tail⟩
  | 'c' =>
    let one := match arg.head? with
      | some c => [c]
      | none => if dialect = .shell then ['\x00'] else []
    ⟨l.pad one, false, none, args.tail⟩
  | 'b' =>
    let (t, stops) := unescape dialect arg
    ⟨l.pad (cut t), false, if stops then some true else none, args.tail⟩
  | _ =>
    if c = 'd' || c = 'i' then
      let (n, ok, args) := integerArgument false args
      ⟨l.integer n, !ok, none, args⟩
    else if ['o', 'u', 'x', 'X'].contains c then
      let (n, ok, args) := integerArgument true args
      ⟨l.natural c (n % Int.pow 2 64).toNat, !ok, none, args⟩
    else if ['e', 'E', 'f', 'F', 'g', 'G'].contains c then
      match decimalArgument args with
      | (some x, ok, args) => ⟨l.decimal c x, !ok, none, args⟩
      | (none, _, args) => ⟨l.pad "inf".toList, false, none, args⟩
    else ⟨[], false, some false, args⟩

def fillWithin (dialect : Dialect) : Nat → Text → List Text → Written
  | 0, _, args => ⟨[], false, none, args⟩
  | _ + 1, [], args => ⟨[], false, none, args⟩
  | n + 1, '\\' :: r, args =>
    if dialect = .program && r.head? = some 'c' then ⟨[], false, some true, args⟩
    else
      let p := escapeAt dialect r
      let w := fillWithin dialect n p.2 args
      { w with text := p.1 ++ w.text }
  | n + 1, '%' :: '%' :: r, args =>
    let w := fillWithin dialect n r args
    { w with text := '%' :: w.text }
  | n + 1, '%' :: r, args =>
    match layoutAt r args with
    | (_, [], args) => ⟨[], false, some false, args⟩
    | (l, c :: r, args) =>
      let v := convert dialect l c args
      if v.stop.isSome then v
      else
        let w := fillWithin dialect n r v.args
        { w with text := v.text ++ w.text, bad := v.bad || w.bad }
  | n + 1, c :: r, args =>
    let w := fillWithin dialect n r args
    { w with text := c :: w.text }

def fillAll (dialect : Dialect) (format : Text) : Nat → List Text → Written
  | 0, args => ⟨[], false, none, args⟩
  | n + 1, args =>
    let w := fillWithin dialect (format.length + 1) format args
    if w.stop.isSome || w.args.isEmpty || w.args.length = args.length then w
    else
      let later := fillAll dialect format n w.args
      { later with text := w.text ++ later.text, bad := w.bad || later.bad }

def printf (dialect : Dialect) (args : List Text) : Text × Nat :=
  let refusal := if dialect = .shell then 2 else 1
  let args := match args with
    | ['-', '-'] :: args => args
    | args => args
  match args with
  | [] => ([], refusal)
  | format :: args =>
    if dialect = .shell && format.head? = some '-' && 1 < format.length then ([], refusal)
    else
      let w := fillAll dialect format (args.length + 1) args
      (w.text, if w.stop = some false then refusal else if w.bad then 1 else 0)

end SecretWeave.Shell
