import SecretWeave.Shell.Program.Call

/-!
# Programs that show texts

Programs that read texts and show them, parts of them or numbers about them: `cat`, `tac`, `rev`,
`nl`, `head`, `tail`, `wc`, `fold`, `base64`, `od` and `tee`.

Main fact: the first and the other lines are all lines (`firstLines_append`).
-/

namespace SecretWeave.Shell.Program

/-! ## 1. Whole texts -/

def catOptions : List OptionSpec :=
  [('n', "number", false), ('b', "number-nonblank", false), ('s', "squeeze-blank", false),
    ('E', "show-ends", false), ('T', "show-tabs", false), ('A', "show-all", false),
    ('v', "show-nonprinting", false), ('e', "", false), ('t', "", false), ('u', "", false)]

def visible (c : Char) : Text :=
  let low := fun (n : Nat) =>
    if n < 32 then ['^', Char.ofNat (n + 64)]
    else if n = 127 then ['^', '?'] else [Char.ofNat n]
  if c = '\n' || c = '\t' then [c]
  else if c.toNat < 128 then low c.toNat
  else ['M', '-'] ++ low (c.toNat - 128)

def squeezed : List Text → List Text
  | a :: b :: r =>
    if a = ['\n'] && b = ['\n'] then squeezed (b :: r) else a :: squeezed (b :: r)
  | ls => ls

def numbered (empty : Bool) : Nat → List Text → List Text
  | _, [] => []
  | n, l :: ls =>
    if l = ['\n'] && !empty then l :: numbered empty n ls
    else (aligned 6 n ++ '\t' :: l) :: numbered empty (n + 1) ls

def catText (o : Options) (t : Text) : Text :=
  if o.given.isEmpty then t
  else
    let ls := fullLinesOf t
    let ls := if o.has 's' then squeezed ls else ls
    let shows := o.has 'v' || o.has 'A' || o.has 'e' || o.has 't'
    let tabs := o.has 'T' || o.has 'A' || o.has 't'
    let ends := o.has 'E' || o.has 'A' || o.has 'e'
    let ls := ls.map fun l => l.flatMap fun c =>
      if c = '\n' then (if ends then ['$', '\n'] else [c])
      else if c = '\t' then (if tabs then ['^', 'I'] else [c])
      else if shows then visible c else [c]
    let ls := if o.has 'b' then numbered false 1 ls
      else if o.has 'n' then numbered true 1 ls else ls
    ls.flatten

def cat (c : Call) : Report :=
  match readOptions catOptions c.args with
  | none => .misused c 1
  | some o =>
    let s := sourcesOf "cat" c o.operands
    if s.complaints.isEmpty then
      reportSources c o.operands s (catText o (s.texts.flatMap Prod.snd))
    else
      -- what can be read is shown where it stands
      let operands := if o.operands.isEmpty then [['-']] else o.operands
      let written := operands.map fun p =>
        match sourceOf c p with
        | .ok t => (1, catText o t)
        | .error e => (2, complaint "cat" p e)
      ⟨1, written, if usesInput o.operands then c.input.length else 0, c.disk⟩

def tac (c : Call) : Report :=
  match readOptions [] c.args with
  | none => .misused c 1
  | some o =>
    let s := sourcesOf "tac" c o.operands
    reportSources c o.operands s (s.texts.flatMap fun t => (fullLinesOf t.2).reverse.flatten)

def reversedLine (l : Text) : Text :=
  if l.getLast? = some '\n' then l.dropLast.reverse ++ ['\n'] else l.reverse

def rev (c : Call) : Report :=
  match readOptions [] c.args with
  | none => .misused c 1
  | some o =>
    let s := sourcesOf "rev" c o.operands
    let turned := fun (t : Text) => Text.octets ((fullLinesOf (Text.unoctets t)).flatMap reversedLine)
    reportSources c o.operands s (s.texts.flatMap fun t => turned t.2)

def nlLines (all : Bool) (width : Nat) (mark : Text) : Nat → List Text → List Text
  | _, [] => []
  | n, l :: ls =>
    if l.isEmpty && !all then
      List.replicate (width + mark.length) ' ' :: nlLines all width mark n ls
    else
      (aligned width n ++ mark ++ l) :: nlLines all width mark (n + 1) ls

def nl (c : Call) : Report :=
  match readOptions [('b', "body-numbering", true), ('w', "number-width", true),
      ('s', "number-separator", true), ('v', "starting-line-number", true)] c.args with
  | none => .misused c 1
  | some o =>
    let s := sourcesOf "nl" c o.operands
    let width := ((o.value? 'w').bind count?).getD 6
    let start := ((o.value? 'v').bind count?).getD 1
    let ls := linesOf (s.texts.flatMap Prod.snd)
    reportSources c o.operands s
      (unlines (nlLines (o.value? 'b' = some ['a']) width ((o.value? 's').getD ['\t']) start ls))

/-! ## 2. Parts of texts -/

def firstLines (n : Nat) (t : Text) : Text :=
  ((fullLinesOf t).take n).flatten

def otherLines (n : Nat) (t : Text) : Text :=
  ((fullLinesOf t).drop n).flatten

theorem flatten_fullLinesOf (t : Text) : (fullLinesOf t).flatten = t := by
  induction t with
  | nil => rfl
  | cons c r ih =>
    rw [fullLinesOf]
    split
    · rename_i h
      simp [ih, h]
    · split
      · rename_i h
        rw [h] at ih
        simp at ih
        simp [ih]
      · rename_i h
        rw [h] at ih
        simp only [List.flatten_cons] at ih
        simp [ih]

theorem firstLines_append (n : Nat) (t : Text) : firstLines n t ++ otherLines n t = t := by
  unfold firstLines otherLines
  rw [← List.flatten_append, List.take_append_drop, flatten_fullLinesOf]

def unitOf : Text → Option Nat
  | [] => some 1
  | ['b'] => some 512
  | ['k'] | ['K'] => some 1024
  | ['m'] | ['M'] => some (1024 * 1024)
  | _ => none

def amountOf (t : Text) : Option (Option Char × Nat) :=
  let (sign, r) := match t with
    | '+' :: r => (some '+', r)
    | '-' :: r => (some '-', r)
    | r => (none, r)
  match digitsAt 10 r with
  | some (n, r) => (unitOf r).map fun u => (sign, n * u)
  | none => none

def oldAmount (args : List Text) : List Text :=
  match args with
  | ('-' :: d :: r) :: rest =>
    if d.isDigit && r.all Char.isDigit then "-n".toList :: (d :: r) :: rest else args
  | args => args

def endOptions : List OptionSpec :=
  [('n', "lines", true), ('c', "bytes", true), ('q', "quiet", false), ('v', "verbose", false),
    ('f', "follow", false)]

def titled (part : Text → Text) : (first : Bool) → List (Text × Text) → Text
  | _, [] => []
  | first, (name, t) :: rest =>
    let name := if name = ['-'] then "standard input".toList else name
    (if first then [] else ['\n']) ++ "==> ".toList ++ name ++ " <==\n".toList ++ part t ++
      titled part false rest

def showParts (c : Call) (o : Options) (s : Sources) (part : Text → Text) : Report :=
  let titles := (1 < o.operands.length || o.has 'v') && !o.has 'q'
  reportSources c o.operands s
    (if titles then titled part true s.texts else s.texts.flatMap fun t => part t.2)

def head (c : Call) : Report :=
  match readOptions endOptions (oldAmount c.args) with
  | none => .misused c 1
  | some o =>
    let s := sourcesOf "head" c o.operands
    let lines := amountOf ((o.value? 'n').getD "10".toList)
    let octets := (o.value? 'c').map amountOf
    match lines, octets with
    | some (sign, n), none =>
      let part := fun t =>
        if sign = some '-' then firstLines ((fullLinesOf t).length - n) t else firstLines n t
      let r := showParts c o s part
      -- of a file, only what is shown is read
      if c.fromFile && usesInput o.operands then { r with consumed := (part c.input).length } else r
    | _, some (some (sign, n)) =>
      let r := showParts c o s fun t => if sign = some '-' then t.take (t.length - n) else t.take n
      if usesInput o.operands then { r with consumed := min n c.input.length } else r
    | _, _ => .misused c 1

def tail (c : Call) : Report :=
  let args := match c.args with
    | ('+' :: d :: r) :: rest =>
      if d.isDigit && r.all Char.isDigit then "-n".toList :: ('+' :: d :: r) :: rest else c.args
    | args => oldAmount args
  match readOptions endOptions args with
  | none => .misused c 1
  | some o =>
    let s := sourcesOf "tail" c o.operands
    let lines := amountOf ((o.value? 'n').getD "10".toList)
    let octets := (o.value? 'c').map amountOf
    match lines, octets with
    | some (sign, n), none =>
      showParts c o s fun t =>
        if sign = some '+' then otherLines (n - 1) t else otherLines ((fullLinesOf t).length - n) t
    | _, some (some (sign, n)) =>
      showParts c o s fun t => if sign = some '+' then t.drop (n - 1) else t.drop (t.length - n)
    | _, _ => .misused c 1

/-! ## 3. Counting -/

def wordCount (t : Text) : Nat :=
  (t.foldl (fun p c =>
    if isSpace c then (p.1, false) else (if p.2 then p.1 else p.1 + 1, true)) (0, false)).1

def widestLine (t : Text) : Nat :=
  let place := fun (w : Nat) (c : Char) =>
    if c = '\t' then (w / 8 + 1) * 8
    else if 0x20 ≤ c.toNat && c.toNat < 0x7F then w + 1 else w
  ((linesOf t).map fun l => l.foldl place 0).foldl max 0

def countsOf (o : Options) (t : Text) : List Nat :=
  let all := !(['l', 'w', 'm', 'c', 'L'].any o.has)
  (if all || o.has 'l' then [t.count '\n'] else []) ++
    (if all || o.has 'w' then [wordCount t] else []) ++
    (if o.has 'm' then [t.length] else []) ++
    (if all || o.has 'c' then [t.length] else []) ++
    (if o.has 'L' then [widestLine t] else [])

def countLine (width : Nat) (counts : List Nat) (name : Text) : Text :=
  ((counts.map (aligned width)).intersperse [' ']).flatten ++
    (if name.isEmpty then [] else ' ' :: name) ++ ['\n']

def wc (c : Call) : Report :=
  match readOptions [('l', "lines", false), ('w', "words", false), ('m', "chars", false),
      ('c', "bytes", false), ('L', "max-line-length", false)] c.args with
  | none => .misused c 1
  | some o =>
    let s := sourcesOf "wc" c o.operands
    let counts := s.texts.map fun t => (t.1, countsOf o t.2)
    let kinds := (countsOf o []).length
    let total := sumOf (s.texts.map fun t => t.2.length)
    let piped := usesInput o.operands && !c.fromFile
    let width :=
      if kinds = 1 && o.operands.length ≤ 1 then 1
      else max (Text.ofNat total).length (if piped then 7 else 1)
    let name := fun (n : Text) => if o.operands.isEmpty then [] else n
    let sums := (List.range kinds).map fun i => sumOf (counts.map fun e => e.2.getD i 0)
    let body := counts.flatMap fun e => countLine width e.2 (name e.1)
    reportSources c o.operands s
      (if 1 < o.operands.length then body ++ countLine width sums "total".toList else body)

/-! ## 4. Other forms -/

def pieces (n : Nat) (t : Text) : List Text :=
  (List.range ((t.length + n - 1) / n)).map fun i => (t.drop (i * n)).take n

def foldLine (spaces : Bool) (width : Nat) : Nat → Text → List Text
  | 0, l => [l]
  | n + 1, l =>
    if l.length ≤ width then [l]
    else
      let whole := l.take width
      let shorter := (whole.reverse.dropWhile fun c => c != ' ' && c != '\t').reverse
      let piece := if spaces && !shorter.isEmpty then shorter else whole
      piece :: foldLine spaces width n (l.drop piece.length)

def fold (c : Call) : Report :=
  match readOptions [('w', "width", true), ('s', "spaces", false), ('b', "bytes", false)] c.args with
  | none => .misused c 1
  | some o =>
    let s := sourcesOf "fold" c o.operands
    let width := ((o.value? 'w').bind count?).getD 80
    if width = 0 then .misused c 1
    else
      let broken := fun (t : Text) => (fullLinesOf t).flatMap fun l =>
        let ended := l.getLast? = some '\n'
        let body := if ended then l.dropLast else l
        ((foldLine (o.has 's') width body.length body).intersperse ['\n']).flatten ++
          (if ended then ['\n'] else [])
      reportSources c o.operands s (s.texts.flatMap fun t => broken t.2)

def base64Digits : Text :=
  "ABCDEFGHIJKLMNOPQRSTUVWXYZabcdefghijklmnopqrstuvwxyz0123456789+/".toList

def base64Group (t : Text) : Text :=
  let n := (t ++ List.replicate (3 - t.length) '\x00').foldl (fun n c => n * 256 + c.toNat) 0
  let ds := [n / 262144, n / 4096 % 64, n / 64 % 64, n % 64].map fun d => base64Digits.getD d '='
  ds.take (t.length + 1) ++ List.replicate (3 - t.length) '='

def base64Octets (t : Text) : Option Text :=
  let digits := t.takeWhile (· != '=')
  let values := digits.map base64Digits.idxOf
  if t.length != 4 || values.any (64 ≤ ·) || digits.length < 2 || (t.drop digits.length).any (· != '=')
  then none
  else
    let n := (values ++ List.replicate (4 - values.length) 0).foldl (fun n d => n * 64 + d) 0
    some (([n / 65536, n / 256 % 256, n % 256].map Char.ofNat).take (digits.length - 1))

def base64 (c : Call) : Report :=
  match readOptions [('d', "decode", false), ('w', "wrap", true), ('i', "ignore-garbage", false)]
      c.args with
  | none => .misused c 1
  | some o =>
    let s := sourcesOf "base64" c o.operands
    let t := s.texts.flatMap Prod.snd
    if o.has 'd' then
      let groups := (pieces 4 (t.filter (· != '\n'))).map base64Octets
      let good := (groups.takeWhile Option.isSome).flatMap fun g => g.getD []
      let r := reportSources c o.operands s good
      if groups.all Option.isSome then r else { r with code := 1 }
    else
      let code := (pieces 3 t).flatMap base64Group
      match ((o.value? 'w').map count?).getD (some 76) with
      | none => .misused c 1
      | some 0 => reportSources c o.operands s code
      | some w => reportSources c o.operands s (unlines (pieces w code))

def octetName (c : Char) : Text :=
  let special := [('\x00', "\\0"), ('\x07', "\\a"), ('\x08', "\\b"), ('\t', "\\t"), ('\n', "\\n"),
    ('\x0b', "\\v"), ('\x0c', "\\f"), ('\r', "\\r")]
  let body := match special.lookup c with
    | some s => s.toList
    | none =>
      if 0x20 ≤ c.toNat && c.toNat < 0x7F then [c]
      else
        let ds := Nat.toDigits 8 c.toNat
        List.replicate (3 - ds.length) '0' ++ ds
  List.replicate (4 - body.length) ' ' ++ body

def digitsIn (base width n : Nat) : Text :=
  let ds := Nat.toDigits base n
  List.replicate (width - ds.length) '0' ++ ds

def octetLine (form : Text) (t : Text) : Option Text :=
  let pairs := (pieces 2 t).map fun p => (p.headD '\x00').toNat + (p.getD 1 '\x00').toNat * 256
  match String.ofList form with
  | "c" => some (t.flatMap octetName)
  | "x1" => some (t.flatMap fun c => ' ' :: digitsIn 16 2 c.toNat)
  | "o1" => some (t.flatMap fun c => ' ' :: digitsIn 8 3 c.toNat)
  | "u1" => some (t.flatMap fun c => aligned 4 c.toNat)
  | "x2" => some (pairs.flatMap fun n => ' ' :: digitsIn 16 4 n)
  | "o2" => some (pairs.flatMap fun n => ' ' :: digitsIn 8 6 n)
  | _ => none

def od (c : Call) : Report :=
  match readOptions [('A', "address-radix", true), ('t', "format", true), ('v', "", false),
      ('c', "", false), ('b', "", false), ('x', "", false), ('w', "width", true),
      ('N', "read-bytes", true)] c.args with
  | none => .misused c 1
  | some o =>
    let s := sourcesOf "od" c o.operands
    let t := s.texts.flatMap Prod.snd
    let t := match (o.value? 'N').bind count? with
      | some n => t.take n
      | none => t
    let form :=
      if o.has 'c' then ['c'] else if o.has 'b' then "o1".toList else if o.has 'x' then "x2".toList
      else (o.value? 't').getD "o2".toList
    let address := fun (n : Nat) => match o.value? 'A' with
      | some ['n'] => []
      | some ['d'] => digitsIn 10 7 n
      | some ['x'] => digitsIn 16 6 n
      | _ => digitsIn 8 7 n
    let width := ((o.value? 'w').bind count?).getD 16
    if width = 0 || (octetLine form []).isNone then .misused c 1
    else
      let ls := (pieces width t).zipIdx.map fun p =>
        address (p.2 * width) ++ (octetLine form p.1).getD []
      let final := if (address 0).isEmpty then [] else address t.length ++ ['\n']
      reportSources c o.operands s (unlines ls ++ final)

def tee (c : Call) : Report :=
  match readOptions [('a', "append", false), ('i', "ignore-interrupts", false)] c.args with
  | none => .misused c 1
  | some o =>
    let write := fun (p : Disk × Nat) (name : Text) =>
      let path := Text.unoctets name
      let old := if o.has 'a' then (p.1.readBytes path).toOption.getD [] else []
      let new := old ++ Text.toOctets c.input
      match if p.1.has path then p.1.overwrite path new
          else p.1.create path (Disk.masked 0o666 c.mask) new with
      | .ok d => (d, p.2)
      | .error _ => (p.1, 1)
    let (disk, code) := o.operands.foldl write (c.disk, 0)
    ⟨code, [(1, c.input)], c.input.length, disk⟩

end SecretWeave.Shell.Program
