import SecretWeave.Shell.Format
import SecretWeave.Shell.Program.Call

/-!
# Programs that work on lines

Programs that put lines and fields in order, choose among them or change their characters: `sort`,
`uniq`, `cut`, `tr`, `paste`, `comm` and `seq`.

Main fact: equal neighbours are counted and none is lost (`sum_runs`).
-/

namespace SecretWeave.Shell.Program

/-! ## 1. Order -/

structure SortKey where
  first : Nat × Nat
  last : Option (Nat × Nat)
  kinds : List Char

def fieldsOfLine (separator : Option Char) (l : Text) : List Text :=
  match separator with
  | some c => Text.split c l
  | none =>
    let rec go : Nat → Text → List Text
      | 0, _ => []
      | _ + 1, [] => []
      | n + 1, t =>
        let blanks := t.takeWhile fun c => c = ' ' || c = '\t'
        let body := (t.drop blanks.length).takeWhile fun c => c != ' ' && c != '\t'
        (blanks ++ body) :: go n (t.drop (blanks.length + body.length))
    go (l.length + 1) l

def keyText (separator : Option Char) (k : SortKey) (l : Text) : Text :=
  let fields := fieldsOfLine separator l
  let joined := fun (fs : List Text) =>
    match separator with
    | some c => (fs.intersperse [c]).flatten
    | none => fs.flatten
  let skip := fun (b : Bool) (t : Text) =>
    if b then t.dropWhile fun c => c = ' ' || c = '\t' else t
  let blanks := k.kinds.contains 'b'
  let upTo := match k.last with
    | none => fields
    | some (f, 0) => fields.take f
    | some (f, n) =>
      fields.take (f - 1) ++ ((fields.drop (f - 1)).take 1).map fun t => (skip blanks t).take n
  let head := ((upTo.drop (k.first.1 - 1)).take 1).map fun t =>
    (skip blanks t).drop (k.first.2 - 1)
  joined (head ++ upTo.drop k.first.1)

def comparedPlaces : Nat := 40

def numberKey (t : Text) : Int :=
  let t := t.dropWhile fun c => c = ' ' || c = '\t'
  let (negative, t) := match t with
    | '-' :: r => (true, r)
    | r => (false, r)
  let whole := t.takeWhile Char.isDigit
  let places := match t.drop whole.length with
    | '.' :: r => (r.takeWhile Char.isDigit).take comparedPlaces
    | _ => []
  let digits := whole ++ places ++ List.replicate (comparedPlaces - places.length) '0'
  let n : Int := ((Text.readDigits? 10 digits).getD 0 : Nat)
  if negative then -n else n

def compareKeys (kinds : List Char) (a b : Text) : Ordering :=
  let skip := fun (t : Text) =>
    if kinds.contains 'b' then t.dropWhile fun c => c = ' ' || c = '\t' else t
  let dictionary := fun (t : Text) =>
    if kinds.contains 'd' then t.filter fun c => c.isAlphanum || c = ' ' || c = '\t' else t
  let upper := fun (t : Text) => if kinds.contains 'f' then t.map Char.toUpper else t
  let o :=
    if kinds.contains 'n' || kinds.contains 'g' then compare (numberKey a) (numberKey b)
    else
      let a := upper (dictionary (skip a))
      let b := upper (dictionary (skip b))
      if a < b then .lt else if b < a then .gt else .eq
  if kinds.contains 'r' then o.swap else o

def placeOf (t : Text) : Option ((Nat × Nat) × List Char) :=
  match digitsAt 10 t with
  | none => none
  | some (f, '.' :: r) => (digitsAt 10 r).map fun p => ((f, p.1), p.2)
  | some (f, r) => some ((f, 0), r)

def sortKeyOf (t : Text) : Option SortKey :=
  let (start, stop) := match Text.cut? ',' t with
    | some (a, b) => (a, some b)
    | none => (t, none)
  match placeOf start, stop with
  | some (p, kinds), none => some ⟨(p.1, max p.2 1), none, kinds⟩
  | some (p, kinds), some s => (placeOf s).map fun q => ⟨(p.1, max p.2 1), some q.1, kinds ++ q.2⟩
  | none, _ => none

def sortOptions : List OptionSpec :=
  [('r', "reverse", false), ('n', "numeric-sort", false), ('u', "unique", false),
    ('f', "ignore-case", false), ('b', "ignore-leading-blanks", false),
    ('d', "dictionary-order", false), ('k', "key", true), ('t', "field-separator", true),
    ('o', "output", true), ('c', "check", false), ('s', "stable", false),
    ('g', "general-numeric-sort", false), ('z', "zero-terminated", false)]

def sort (c : Call) : Report :=
  match readOptions sortOptions c.args with
  | none => .misused c 2
  | some o =>
    let s := sourcesOf "sort" c o.operands
    let keys := (o.given.filter fun g => g.1 = 'k').map fun g => sortKeyOf g.2
    if keys.any Option.isNone || !s.complaints.isEmpty then
      { reportSources c o.operands s [] with code := 2 }
    else
      let global := ['r', 'n', 'f', 'b', 'd', 'g'].filter o.has
      let keys := keys.filterMap fun k =>
        k.map fun k => if k.kinds.isEmpty then { k with kinds := global } else k
      let separator := (o.value? 't').bind List.head?
      let sep := if o.has 'z' then '\x00' else '\n'
      let split := fun (t : Text) =>
        let ls := Text.split sep t
        if ls.getLast? = some [] then ls.dropLast else ls
      let ls := s.texts.flatMap fun t => split t.2
      let byKeys := fun (a b : Text) =>
        if keys.isEmpty then compareKeys global a b
        else
          (keys.map fun k =>
            compareKeys k.kinds (keyText separator k a) (keyText separator k b)).foldl Ordering.then .eq
      let lastly := fun (a b : Text) =>
        let o := if a < b then Ordering.lt else if b < a then .gt else .eq
        if global.contains 'r' then o.swap else o
      let order := fun (a b : Text) =>
        if o.has 'u' || o.has 's' then byKeys a b else (byKeys a b).then (lastly a b)
      if o.has 'c' then
        let bad := (ls.zip ls.tail).any fun p =>
          order p.1 p.2 == .gt || (o.has 'u' && byKeys p.1 p.2 == .eq)
        { reportSources c o.operands s [] with code := if bad then 1 else 0 }
      else
        let sorted := ls.mergeSort fun a b => order a b != .gt
        let kept :=
          if o.has 'u' then
            (sorted.foldl (fun r l => match r with
              | p :: _ => if byKeys p l == .eq then r else l :: r
              | [] => [l]) []).reverse
          else sorted
        let t := kept.flatMap fun l => l ++ [sep]
        match o.value? 'o' with
        | none => reportSources c o.operands s t
        | some name =>
          let path := Text.unoctets name
          let content := Text.toOctets t
          match if c.disk.has path then c.disk.overwrite path content
              else c.disk.create path (Disk.masked 0o666 c.mask) content with
          | .ok d => { reportSources c o.operands s [] with disk := d }
          | .error _ => { reportSources c o.operands s [] with code := 2 }

/-! ## 2. Neighbours -/

def runs (same : Text → Text → Bool) : List Text → List (Text × Nat)
  | [] => []
  | l :: ls =>
    match runs same ls with
    | [] => [(l, 1)]
    | (m, n) :: rest => if same l m then (l, n + 1) :: rest else (l, 1) :: (m, n) :: rest

theorem sum_runs (same : Text → Text → Bool) (ls : List Text) :
    sumOf ((runs same ls).map Prod.snd) = ls.length := by
  induction ls with
  | nil => rfl
  | cons l ls ih =>
    rw [runs]
    split
    · rename_i h
      rw [h] at ih
      simp only [List.map_nil, sumOf] at ih
      simp only [List.map_cons, List.map_nil, sumOf, List.length_cons]
      omega
    · rename_i m n rest h
      rw [h] at ih
      simp only [List.map_cons, sumOf] at ih
      split <;> simp only [List.map_cons, sumOf, List.length_cons] <;> omega

def uniq (c : Call) : Report :=
  match readOptions [('c', "count", false), ('d', "repeated", false), ('u', "unique", false),
      ('i', "ignore-case", false), ('f', "skip-fields", true), ('s', "skip-chars", true),
      ('w', "check-chars", true)] c.args with
  | none => .misused c 1
  | some o =>
    let number := fun (k : Char) => (o.value? k).bind count?
    let s := sourcesOf "uniq" c (o.operands.take 1)
    let key := fun (l : Text) =>
      let l := match number 'f' with
        | some n => ((fieldsOfLine none l).drop n).flatten
        | none => l
      let l := l.drop ((number 's').getD 0)
      let l := match number 'w' with
        | some n => l.take n
        | none => l
      if o.has 'i' then l.map Char.toUpper else l
    let rs := runs (fun a b => key a == key b) (linesOf (s.texts.flatMap Prod.snd))
    let rs := rs.filter fun r => (!o.has 'd' || 1 < r.2) && (!o.has 'u' || r.2 = 1)
    reportSources c (o.operands.take 1) s
      (unlines (rs.map fun r => if o.has 'c' then aligned 7 r.2 ++ ' ' :: r.1 else r.1))

/-! ## 3. Columns -/

def rangeOf (t : Text) : Option (Nat × Option Nat) :=
  match Text.cut? '-' t with
  | none => (count? t).bind fun n => if n = 0 then none else some (n, some n)
  | some (a, b) =>
    let low := if a.isEmpty then some 1 else count? a
    match low, b with
    | some m, [] => if a.isEmpty || m = 0 then none else some (m, none)
    | some m, b => (count? b).bind fun n => if m = 0 || n < m then none else some (m, some n)
    | none, _ => none

def rangesOf (t : Text) : Option (List (Nat × Option Nat)) :=
  ((Text.split ',' (t.map fun c => if c = ' ' || c = '\t' then ',' else c)).filter
    (!·.isEmpty)).mapM rangeOf

def inColumns (ranges : List (Nat × Option Nat)) (n : Nat) : Bool :=
  ranges.any fun r => r.1 ≤ n && match r.2 with
    | some m => n ≤ m
    | none => true

def cut (c : Call) : Report :=
  match readOptions [('b', "bytes", true), ('c', "characters", true), ('f', "fields", true),
      ('d', "delimiter", true), ('s', "only-delimited", false), ('n', "", false),
      ('O', "output-delimiter", true), ('C', "complement", false)] c.args with
  | none => .misused c 1
  | some o =>
    let columns := ['b', 'c', 'f'].filterMap fun k => (o.value? k).map fun v => (k, v)
    match columns with
    | [(kind, list)] =>
      match rangesOf list with
      | none => .misused c 1
      | some [] => .misused c 1
      | some ranges =>
        let wanted := fun n => inColumns ranges n != o.has 'C'
        let separator := ((o.value? 'd').getD ['\t']).headD '\x00'
        let chosen := fun {α : Type} (xs : List α) =>
          (xs.zipIdx.filter fun p => wanted (p.2 + 1)).map Prod.fst
        let line := fun (l : Text) =>
          if kind = 'f' then
            if l.contains separator then
              some (((chosen (Text.split separator l)).intersperse
                ((o.value? 'O').getD [separator])).flatten)
            else if o.has 's' then none else some l
          else some (chosen l)
        let s := sourcesOf "cut" c o.operands
        if 1 < ((o.value? 'd').getD ['\t']).length then .misused c 1
        else
          reportSources c o.operands s
            (unlines ((linesOf (s.texts.flatMap Prod.snd)).filterMap line))
    | _ => .misused c 1

def pasteLines (separators : List Text) : Nat → List (List Text) → List Text
  | 0, _ => []
  | n + 1, columns =>
    if columns.all List.isEmpty then []
    else
      let cells := columns.map fun col => col.headD []
      joinCells separators 0 cells :: pasteLines separators n (columns.map List.tail)
where
  joinCells (separators : List Text) : Nat → List Text → Text
    | _, [] => []
    | _, [t] => t
    | i, t :: ts =>
      t ++ separators.getD (i % max separators.length 1) [] ++ joinCells separators (i + 1) ts

def separatorsOf : Text → List Text
  | [] => []
  | '\\' :: c :: r =>
    (match c with
      | 'n' => ['\n']
      | 't' => ['\t']
      | '0' => []
      | c => [c]) :: separatorsOf r
  | c :: r => [c] :: separatorsOf r

def paste (c : Call) : Report :=
  match readOptions [('d', "delimiters", true), ('s', "serial", false)] c.args with
  | none => .misused c 1
  | some o =>
    let s := sourcesOf "paste" c o.operands
    let separators := separatorsOf ((o.value? 'd').getD ['\t'])
    let columns := s.texts.map fun t => linesOf t.2
    let ls :=
      if o.has 's' then columns.map (pasteLines.joinCells separators 0)
      else pasteLines separators ((columns.map List.length).foldl max 0) columns
    reportSources c o.operands s (unlines ls)

def merged : Nat → List Text → List Text → List (Nat × Text)
  | 0, _, _ => []
  | _ + 1, [], bs => bs.map fun b => (2, b)
  | _ + 1, as, [] => as.map fun a => (1, a)
  | n + 1, a :: as, b :: bs =>
    if a = b then (3, a) :: merged n as bs
    else if a < b then (1, a) :: merged n as (b :: bs)
    else (2, b) :: merged n (a :: as) bs

def comm (c : Call) : Report :=
  match readOptions [('1', "", false), ('2', "", false), ('3', "", false)] c.args with
  | none => .misused c 1
  | some o =>
    let s := sourcesOf "comm" c o.operands
    match s.texts with
    | [a, b] =>
      let as := linesOf a.2
      let bs := linesOf b.2
      let shown := fun (n : Nat) => !o.has (Nat.digitChar n)
      let indent := fun (n : Nat) => (List.range n).flatMap fun i =>
        if i ≠ 0 && shown i then ['\t'] else []
      reportSources c o.operands s
        (unlines ((merged (as.length + bs.length + 1) as bs).filterMap fun e =>
          if shown e.1 then some (indent e.1 ++ e.2) else none))
    | _ => { reportSources c o.operands s [] with code := 1 }

/-! ## 4. Characters -/

def classMembers (name : Text) : Option Text :=
  let all := (List.range 256).map Char.ofNat
  let from' := fun (p : Char → Bool) => some (all.filter p)
  match String.ofList name with
  | "alpha" => from' Char.isAlpha
  | "digit" => from' Char.isDigit
  | "alnum" => from' Char.isAlphanum
  | "upper" => from' Char.isUpper
  | "lower" => from' Char.isLower
  | "space" => from' isSpace
  | "blank" => from' fun c => c = ' ' || c = '\t'
  | "punct" => from' fun c => 0x21 ≤ c.toNat && c.toNat ≤ 0x7E && !c.isAlphanum
  | "print" => from' fun c => 0x20 ≤ c.toNat && c.toNat ≤ 0x7E
  | "graph" => from' fun c => 0x21 ≤ c.toNat && c.toNat ≤ 0x7E
  | "cntrl" => from' fun c => c.toNat < 0x20 || c.toNat = 0x7F
  | "xdigit" => from' (isDigitOf 16)
  | _ => none

def setLetters : Nat → Text → List (Char × Bool)
  | 0, _ => []
  | _ + 1, [] => []
  | n + 1, '\\' :: r =>
    match escapeAt .shell r with
    | (['\\'], r') =>
      if r' = r then
        match r with
        | c :: r => (c, true) :: setLetters n r
        | [] => [('\\', true)]
      else ('\\', true) :: setLetters n r'
    | (t, r) => t.map (fun c => (c, true)) ++ setLetters n r
  | n + 1, c :: r => (c, false) :: setLetters n r

/-- The characters that a set means: ranges, classes and repetitions are written out. The length is
that of the other set, up to which a repetition goes on. -/
def expandSet (length : Nat) : Nat → List (Char × Bool) → Option Text
  | 0, _ => some []
  | _ + 1, [] => some []
  | n + 1, (c, q) :: r =>
    if c = '[' && !q then
      match r with
      | (':', false) :: r' =>
        let name := (r'.map Prod.fst).takeWhile (· != ':')
        match (r'.drop name.length).map Prod.fst with
        | ':' :: ']' :: _ =>
          match classMembers name, expandSet length n (r'.drop (name.length + 2)) with
          | some ms, some rest => some (ms ++ rest)
          | _, _ => none
        | _ => (expandSet length n r).map (c :: ·)
      | (d, _) :: ('*', false) :: r' =>
        let count := (r'.map Prod.fst).takeWhile (· != ']')
        if count.all Char.isDigit && count.length < r'.length then
          let times := if count.head? = some '0' then (Text.readDigits? 8 count).getD 0
            else (Text.readDigits? 10 count).getD 0
          match expandSet length n (r'.drop (count.length + 1)) with
          | some rest =>
            some (List.replicate (if times = 0 then length - rest.length else times) d ++ rest)
          | none => none
        else (expandSet length n r).map (c :: ·)
      | _ => (expandSet length n r).map (c :: ·)
    else
      match r with
      | ('-', false) :: (d, _) :: r' =>
        if d < c then none
        else
          let range := (List.range (d.toNat + 1 - c.toNat)).map fun i => Char.ofNat (c.toNat + i)
          (expandSet length n r').map (range ++ ·)
      | _ => (expandSet length n r).map (c :: ·)

def squeeze (inSet : Char → Bool) : Text → Text
  | a :: b :: r =>
    if a = b && inSet a then squeeze inSet (b :: r) else a :: squeeze inSet (b :: r)
  | t => t

def tr (c : Call) : Report :=
  match readFrontOptions [('d', "delete", false), ('s', "squeeze-repeats", false),
      ('c', "complement", false), ('C', "", false), ('t', "truncate-set1", false)] c.args with
  | none => .misused c 1
  | some o =>
    let letters := fun (t : Text) => setLetters (t.length + 1) t
    let set := fun (length : Nat) (t : Text) => expandSet length (t.length + 1) (letters t)
    let complement := o.has 'c' || o.has 'C'
    let whole := (List.range 256).map Char.ofNat
    let first := fun (a : Text) => (set 0 a).map fun s =>
      if complement then whole.filter fun c => !s.contains c else s
    match o.operands with
    | [a] =>
      match first a with
      | none => .misused c 1
      | some s =>
        if o.has 'd' && !o.has 's' then .ofInput c (c.input.filter fun c => !s.contains c)
        else if o.has 's' && !o.has 'd' then .ofInput c (squeeze s.contains c.input)
        else .misused c 1
    | [a, b] =>
      match first a with
      | none => .misused c 1
      | some s =>
        match set s.length b with
        | none => .misused c 1
        | some u =>
          if o.has 'd' then
            if o.has 's' then
              .ofInput c (squeeze u.contains (c.input.filter fun c => !s.contains c))
            else .misused c 1
          else if u.isEmpty then .misused c 1
          else
            let s := if o.has 't' then s.take u.length else s
            -- the last character stands for all further ones; a later pair wins
            let pairs := (s.zipIdx.map fun p => (p.1, u.getD p.2 (u.getLastD ' '))).reverse
            let changed := c.input.map fun c => (pairs.lookup c).getD c
            .ofInput c (if o.has 's' then squeeze u.contains changed else changed)
    | _ => .misused c 1

/-! ## 5. Numbers -/

def placesOf (t : Text) : Nat :=
  match Text.cut? '.' t with
  | some (_, r) => (r.takeWhile Char.isDigit).length
  | none => 0

def scaledOf (places : Nat) (t : Text) : Option Int :=
  let (negative, r) := signAt t
  let whole := r.takeWhile Char.isDigit
  let (fraction, rest) := match r.drop whole.length with
    | '.' :: r => (r.takeWhile Char.isDigit, r.dropWhile Char.isDigit)
    | r => ([], r)
  if (whole.isEmpty && fraction.isEmpty) || !rest.isEmpty then none
  else
    let ds := whole ++ fraction ++ List.replicate (places - fraction.length) '0'
    (Text.readDigits? 10 ds).map fun n => if negative then -(n : Int) else n

def unscaled (places : Nat) (n : Int) : Text :=
  (if n < 0 then ['-'] else []) ++ pointed false places n.natAbs

def steps (first step last : Int) : Nat → List Int
  | 0 => []
  | n + 1 =>
    if (0 < step && last < first) || (step < 0 && first < last) then []
    else first :: steps (first + step) step last n

def seq (c : Call) : Report :=
  let isNumber := fun (a : Text) => match a with
    | '-' :: d :: _ => d.isDigit || d = '.'
    | _ => false
  -- a negative number is no option
  let options := c.args.takeWhile fun a => !isNumber a
  match readFrontOptions [('s', "separator", true), ('w', "equal-width", false),
      ('f', "format", true)] options with
  | none => .misused c 1
  | some o =>
    let operands := o.operands ++ c.args.drop options.length
    let places := ((operands.take (max 1 (operands.length - 1))).map placesOf).foldl max 0
    let numbers := match operands with
      | [l] => (scaledOf 0 l).map fun l => (1, 1, l)
      | [f, l] => do some (← scaledOf places f, Int.pow 10 places, (← scaledOf (max places (placesOf l)) l))
      | [f, s, l] =>
        do some (← scaledOf places f, ← scaledOf places s, (← scaledOf (max places (placesOf l)) l))
      | _ => none
    let extra := match operands.getLast? with
      | some l => placesOf l - places
      | none => 0
    match numbers with
    | none => .misused c 1
    | some (_, 0, _) => .misused c 1
    | some (f, s, l) =>
      let l := if operands.length = 1 then l else Int.fdiv l (Int.pow 10 extra)
      let ns := steps f s l ((l - f).natAbs / s.natAbs + 1)
      let texts := match o.value? 'f' with
        | some format => ns.map fun n => (printf .program [format, unscaled places n]).1
        | none => ns.map (unscaled places)
      let width := (texts.map List.length).foldl max 0
      let wide := fun (t : Text) => match t with
        | '-' :: r => '-' :: (List.replicate (width - t.length) '0' ++ r)
        | t => List.replicate (width - t.length) '0' ++ t
      let texts := if o.has 'w' then texts.map wide else texts
      let body := (texts.intersperse ((o.value? 's').getD ['\n'])).flatten
      .ofText c (if texts.isEmpty then [] else body ++ ['\n']) 0

end SecretWeave.Shell.Program
