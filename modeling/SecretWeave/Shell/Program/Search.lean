import SecretWeave.Shell.Program.Call
import SecretWeave.Shell.Regex

/-!
# Programs that search

Programs that find and replace with regular expressions, and the one that works out expressions of
its arguments: `grep`, `sed` and `expr`.
-/

namespace SecretWeave.Shell.Program

/-! ## 1. Finding lines -/

def grepOptions : List OptionSpec :=
  [('q', "quiet", false), ('v', "invert-match", false), ('i', "ignore-case", false),
    ('c', "count", false), ('n', "line-number", false), ('l', "files-with-matches", false),
    ('L', "files-without-match", false), ('o', "only-matching", false),
    ('x', "line-regexp", false), ('w', "word-regexp", false), ('F', "fixed-strings", false),
    ('E', "extended-regexp", false), ('G', "basic-regexp", false), ('e', "regexp", true),
    ('s', "no-messages", false), ('h', "no-filename", false), ('H', "with-filename", false),
    ('m', "max-count", true), ('a', "text", false), ('b', "byte-offset", false)]

def searchOf (o : Options) (patterns : List Text) : Option Regex :=
  let form := if o.has 'E' then Regex.Form.extended else .basic
  let single := fun (t : Text) =>
    if o.has 'F' then some (Regex.ofLetters t) else Regex.ofText form t
  match (patterns.flatMap (Text.split '\n')).mapM single with
  | none => none
  | some [] => none
  | some (r :: rs) =>
    let r := rs.foldl .either r
    if o.has 'x' then some (.both .start (.both r .finish))
    else some r

def isWordFit (s : Array Char) (i j : Nat) : Bool :=
  (i = 0 || !(s[i - 1]?.any Regex.isWordChar)) && !(s[j]?.any Regex.isWordChar)

def fitsIn (r : Regex) (o : Options) (s : Array Char) : Nat → Nat → List (Nat × Nat)
  | 0, _ => []
  | n + 1, i =>
    match r.findFrom (o.has 'i') s i with
    | none => []
    | some (a, b, _) =>
      if o.has 'w' && !isWordFit s a b then fitsIn r o s n (a + 1)
      else (a, b) :: fitsIn r o s n (if b = a then b + 1 else b)

def chosenLines (r : Regex) (o : Options) (ls : List Text) : List (Nat × Text × List (Nat × Nat)) :=
  ls.zipIdx.filterMap fun p =>
    let fs := fitsIn r o p.1.toArray (p.1.length + 2) 0
    if fs.isEmpty = o.has 'v' then some (p.2 + 1, p.1, fs) else none

def grepWith (c : Call) (o : Options) : Report :=
  let patterns := (o.given.filter fun g => g.1 = 'e').map Prod.snd
  let (patterns, operands) :=
    if patterns.isEmpty then (o.operands.take 1, o.operands.drop 1) else (patterns, o.operands)
  match searchOf o patterns with
  | none => .misused c 2
  | some r =>
    let s := sourcesOf "grep" c operands
    let titles := (1 < operands.length || o.has 'H') && !o.has 'h'
    let results := s.texts.map fun t =>
      let name := if t.1 = ['-'] then "(standard input)".toList else t.1
      let ls := chosenLines r o (linesOf t.2)
      (name, match (o.value? 'm').bind count? with
        | some m => ls.take m
        | none => ls)
    let front := fun (name : Text) (n : Nat) =>
      (if titles then name ++ [':'] else []) ++
        (if o.has 'n' then Text.ofNat n ++ [':'] else [])
    let shown := fun (e : Text × List (Nat × Text × List (Nat × Nat))) =>
      if o.has 'l' then (if e.2.isEmpty then [] else [e.1])
      else if o.has 'L' then (if e.2.isEmpty then [e.1] else [])
      else if o.has 'c' then
        [(if titles then e.1 ++ [':'] else []) ++ Text.ofNat e.2.length]
      else if o.has 'o' then
        e.2.flatMap fun l => (l.2.2.filter fun f => f.1 < f.2).map fun f =>
          front e.1 l.1 ++ (l.2.1.drop f.1).take (f.2 - f.1)
      else e.2.map fun l => front e.1 l.1 ++ l.2.1
    let found := results.any fun e => !e.2.isEmpty
    let report := reportSources c operands s
      (if o.has 'q' then [] else unlines (results.flatMap shown))
    let code := if found && (s.complaints.isEmpty || o.has 'q') then 0
      else if s.complaints.isEmpty then 1 else 2
    { report with code }

def grep (letters : List Char) (c : Call) : Report :=
  match readOptions grepOptions c.args with
  | none => .misused c 2
  | some o => grepWith c { o with given := letters.map (fun l => (l, [])) ++ o.given }

/-! ## 2. Editing lines -/

inductive Address where
  | line (n : Nat)
  | last
  | fits (r : Regex) (fold : Bool)

inductive Edit where
  | replace (r : Regex) (fold : Bool) (by' : Text) (all : Bool) (time : Nat) (shows : Bool)
  | exchange (pairs : List (Char × Char))
  | delete
  | print
  | quit (silent : Bool) (code : Nat)
  | append (t : Text)
  | insert (t : Text)
  | change (t : Text)
  | number

structure EditAt where
  first : Option Address
  last : Option Address
  inverted : Bool
  edit : Edit

/-- A text up to a separator that is not protected, and what follows it. A protected separator
stands for itself. -/
def upToSeparator (sep : Char) : Text → Option (Text × Text)
  | [] => none
  | '\\' :: c :: r =>
    (upToSeparator sep r).map fun p =>
      if c = sep then (c :: p.1, p.2) else ('\\' :: c :: p.1, p.2)
  | c :: r => if c = sep then some ([], r) else (upToSeparator sep r).map fun p => (c :: p.1, p.2)

/-- What a replacement puts in: `&` stands for what fitted, a digit behind a backslash for a
group. -/
def replacement (whole : Text) (group : Nat → Text) : Text → Text
  | [] => []
  | '\\' :: c :: r =>
    (if c.isDigit then (if c = '0' then whole else group (c.toNat - 48))
      else if c = 'n' then ['\n'] else if c = 't' then ['\t'] else [c]) ++ replacement whole group r
  | c :: r => (if c = '&' then whole else [c]) ++ replacement whole group r

def replaceIn (r : Regex) (fold all : Bool) (by' : Text) (s : Array Char) :
    Nat → (time : Nat) → Nat → Text × Bool
  | 0, _, i => ((s.extract i s.size).toList, false)
  | n + 1, time, i =>
    match r.findFrom fold s i with
    | none => ((s.extract i s.size).toList, false)
    | some (a, b, g) =>
      let between := (s.extract i a).toList
      let whole := (s.extract a b).toList
      let group := fun k => match g.lookup k with
        | some (x, y) => (s.extract x y).toList
        | none => []
      let onward := fun (time : Nat) =>
        if b = a then
          let (t, d) := replaceIn r fold all by' s n time (b + 1)
          ((s.extract b (b + 1)).toList ++ t, d)
        else replaceIn r fold all by' s n time b
      if 1 < time then
        let (t, d) := onward (time - 1)
        (between ++ whole ++ t, d)
      else
        let new := replacement whole group by'
        if all then
          let (t, _) := onward 1
          (between ++ new ++ t, true)
        else (between ++ new ++ (s.extract b s.size).toList, true)

def addressAt (form : Regex.Form) (t : Text) : Option (Option Address × Text) :=
  match t with
  | '$' :: r => some (some .last, r)
  | '/' :: r =>
    match upToSeparator '/' r with
    | none => none
    | some (p, r) =>
      match Regex.ofText form p, r with
      | some e, 'I' :: r => some (some (.fits e true), r)
      | some e, r => some (some (.fits e false), r)
      | none, _ => none
  | c :: r =>
    if c.isDigit then (digitsAt 10 (c :: r)).map fun p => (some (.line p.1), p.2)
    else some (none, c :: r)
  | [] => some (none, [])

def replaceFlags : Text → (Bool × Nat × Bool × Bool) × Text
  | 'g' :: r => let p := replaceFlags r; ((true, p.1.2), p.2)
  | 'p' :: r => let p := replaceFlags r; ((p.1.1, p.1.2.1, true, p.1.2.2.2), p.2)
  | 'i' :: r => let p := replaceFlags r; ((p.1.1, p.1.2.1, p.1.2.2.1, true), p.2)
  | 'I' :: r => let p := replaceFlags r; ((p.1.1, p.1.2.1, p.1.2.2.1, true), p.2)
  | c :: r =>
    if c.isDigit then
      let p := replaceFlags r
      ((p.1.1, c.toNat - 48, p.1.2.2), p.2)
    else ((false, 1, false, false), c :: r)
  | [] => ((false, 1, false, false), [])

def shownText (r : Text) : Text × Text :=
  let r := r.dropWhile fun c => c = ' ' || c = '\t'
  let r := match r with
    | '\\' :: '\n' :: r => r
    | '\\' :: r => r
    | r => r
  (r.takeWhile (· != '\n') ++ ['\n'], r.dropWhile (· != '\n'))

def editAt (form : Regex.Form) (t : Text) : Option (Edit × Text) :=
  match t with
  | 'd' :: r => some (.delete, r)
  | 'p' :: r => some (.print, r)
  | '=' :: r => some (.number, r)
  | 'q' :: r =>
    let r := r.dropWhile (· == ' ')
    match digitsAt 10 r with
    | some (n, r) => some (.quit false n, r)
    | none => some (.quit false 0, r)
  | 'Q' :: r => some (.quit true 0, r)
  | 'a' :: r => some (.append (shownText r).1, (shownText r).2)
  | 'i' :: r => some (.insert (shownText r).1, (shownText r).2)
  | 'c' :: r => some (.change (shownText r).1, (shownText r).2)
  | 's' :: sep :: r =>
    match upToSeparator sep r with
    | none => none
    | some (p, r) =>
      match upToSeparator sep r with
      | none => none
      | some (by', r) =>
        let ((all, time, shows, fold), r) := replaceFlags r
        (Regex.ofText form p).map fun e => (.replace e fold by' all time shows, r)
  | 'y' :: sep :: r =>
    match upToSeparator sep r with
    | none => none
    | some (a, r) =>
      match upToSeparator sep r with
      | none => none
      | some (b, r) => if a.length = b.length then some (.exchange (a.zip b), r) else none
  | _ => none

def editsOf (form : Regex.Form) : Nat → Text → Option (List EditAt)
  | 0, _ => none
  | n + 1, t =>
    match t.dropWhile fun c => [' ', '\t', '\n', ';'].contains c with
    | [] => some []
    | t =>
      match addressAt form t with
      | none => none
      | some (first, r) =>
        let second := match first, r with
          | some _, ',' :: r => addressAt form r
          | _, r => some (none, r)
        match second with
        | none => none
        | some (last, r) =>
          let r := r.dropWhile (· == ' ')
          let inverted := r.head? = some '!'
          let r := if inverted then (r.drop 1).dropWhile (· == ' ') else r
          match editAt form r with
          | none => none
          | some (edit, r) =>
            let r := r.dropWhile fun c => c = ' ' || c = '\t'
            if r.isEmpty || r.head? = some ';' || r.head? = some '\n' then
              (editsOf form n r).map (⟨first, last, inverted, edit⟩ :: ·)
            else none

def Address.means (total n : Nat) (l : Text) : Address → Bool
  | .line m => m = n
  | .last => n = total
  | .fits r fold => r.isIn fold l

def EditAt.applies (e : EditAt) (isOpen : Bool) (total n : Nat) (l : Text) : Bool × Bool :=
  let (applies, isOpen) := match e.first, e.last with
    | none, _ => (true, false)
    | some a, none => (a.means total n l, false)
    | some a, some b =>
      if isOpen then
        match b with
        | .line m => (n ≤ m, n < m)
        | b => (true, !b.means total n l)
      else if a.means total n l then
        match b with
        | .line m => (true, n < m)
        | .last => (true, n ≠ total)
        | .fits _ _ => (true, true)
      else (false, false)
  (applies != e.inverted, isOpen)

structure Editing where
  line : Text
  shown : Text
  behind : Text
  gone : Bool
  ends : Option (Bool × Nat)
  isOpen : List Bool

def Editing.apply (x : Editing) (n : Nat) : Edit → Editing
  | .replace r fold by' all time shows =>
    let s := x.line.toArray
    let (t, done) := replaceIn r fold all by' s (s.size + 2) time 0
    let x := { x with line := t }
    if done && shows then { x with shown := x.shown ++ t ++ ['\n'] } else x
  | .exchange pairs => { x with line := x.line.map fun c => (pairs.lookup c).getD c }
  | .delete => { x with gone := true }
  | .print => { x with shown := x.shown ++ x.line ++ ['\n'] }
  | .quit silent code => { x with ends := some (silent, code) }
  | .append t => { x with behind := x.behind ++ t }
  | .insert t => { x with shown := x.shown ++ t }
  | .change t => { x with shown := x.shown ++ t, gone := true }
  | .number => { x with shown := x.shown ++ Text.ofNat n ++ ['\n'] }

def editLine (es : List EditAt) (total n : Nat) (isOpen : List Bool) (l : Text) : Editing :=
  (es.zip isOpen).foldl
    (fun x e =>
      if x.gone || x.ends.isSome then { x with isOpen := x.isOpen ++ [e.2] }
      else
        let (applies, isOpen) := e.1.applies e.2 total n x.line
        let x := { x with isOpen := x.isOpen ++ [isOpen] }
        if applies then x.apply n e.1.edit else x)
    ⟨l, [], [], false, none, []⟩

def editLines (es : List EditAt) (silent lastEnded : Bool) (total : Nat) :
    Nat → List Bool → List Text → Text × Nat
  | _, _, [] => ([], 0)
  | n, isOpen, l :: ls =>
    let x := editLine es total n isOpen l
    let quiet := silent || x.gone || (match x.ends with
      | some (s, _) => s
      | none => false)
    let ended := if ls.isEmpty && !lastEnded && x.behind.isEmpty then [] else ['\n']
    let own := x.shown ++ (if quiet then [] else x.line ++ ended) ++ x.behind
    match x.ends with
    | some (_, code) => (own, code)
    | none =>
      let (t, code) := editLines es silent lastEnded total (n + 1) x.isOpen ls
      (own ++ t, code)

def editText (es : List EditAt) (silent : Bool) (t : Text) : Text × Nat :=
  let ls := linesOf t
  editLines es silent (t.getLast? = some '\n') ls.length 1 (es.map fun _ => false) ls

def sed (c : Call) : Report :=
  match readOptions [('n', "quiet", false), ('e', "expression", true), ('E', "regexp-extended", false),
      ('r', "", false), ('i', "in-place", false), ('s', "separate", false), ('u', "", false)]
      c.args with
  | none => .misused c 1
  | some o =>
    let scripts := (o.given.filter fun g => g.1 = 'e').map Prod.snd
    let (script, operands) :=
      if scripts.isEmpty then (o.operands.headD [], o.operands.drop 1)
      else ((scripts.intersperse ['\n']).flatten, o.operands)
    let form := if o.has 'E' || o.has 'r' then Regex.Form.extended else .basic
    match editsOf form (script.length + 2) script with
    | none => .misused c 1
    | some es =>
      if o.has 'i' then
        let disk := operands.foldl (fun d p =>
          match contentOf d p with
          | .ok t =>
            (d.overwrite (Text.unoctets p)
              (Text.toOctets (editText es (o.has 'n') t).1)).toOption.getD d
          | .error _ => d) c.disk
        ⟨0, [], 0, disk⟩
      else
        let s := sourcesOf "sed" c operands
        let (t, code) := editText es (o.has 'n') (s.texts.flatMap Prod.snd)
        let r := reportSources c operands s t
        { r with code := if code = 0 then (if s.complaints.isEmpty then 0 else 2) else code }

/-! ## 3. Expressions of arguments -/

abbrev ArgValue := Option (Text × List Text)

def isNothing (t : Text) : Bool :=
  t.isEmpty || integer? (some 10) t = some 0

def matchStart (t p : Text) : Option Text :=
  match Regex.ofText .basic p with
  | none => none
  | some r =>
    let hasGroup := (Text.after? ['\\', '('] p).isSome ||
      (p.zip (p.drop 1)).any fun q => q.1 = '\\' && q.2 = '('
    match r.fitAt t.toArray false 0 [] fun j g => some (j, g) with
    | some (j, g) =>
      some (if hasGroup then
          match g.lookup 1 with
          | some (a, b) => (t.drop a).take (b - a)
          | none => []
        else Text.ofNat j)
    | none => some (if hasGroup then [] else ['0'])

def combine (sign a b : Text) : Option Text :=
  let numbers := match integer? (some 10) a, integer? (some 10) b with
    | some m, some n => some (m, n)
    | _, _ => none
  let arithmetic := fun (f : Int → Int → Int) => numbers.map fun p => ofInteger (f p.1 p.2)
  let order : Ordering := match numbers with
    | some (m, n) => compare m n
    | none => if a < b then .lt else if b < a then .gt else .eq
  let truth := fun (p : Bool) => some (if p then ['1'] else ['0'])
  match String.ofList sign with
  | "|" => some (if isNothing a then (if isNothing b then ['0'] else b) else a)
  | "&" => some (if isNothing a || isNothing b then ['0'] else a)
  | "<" => truth (order == .lt)
  | "<=" => truth (order != .gt)
  | "=" => truth (order == .eq)
  | "==" => truth (order == .eq)
  | "!=" => truth (order != .eq)
  | ">=" => truth (order != .lt)
  | ">" => truth (order == .gt)
  | "+" => arithmetic (· + ·)
  | "-" => arithmetic (· - ·)
  | "*" => arithmetic (· * ·)
  | "/" => match numbers with
    | some (m, n) => if n = 0 then none else some (ofInteger (m.tdiv n))
    | none => none
  | "%" => match numbers with
    | some (m, n) => if n = 0 then none else some (ofInteger (m.tmod n))
    | none => none
  | ":" => matchStart a b
  | _ => none

def exprLevels : List (List Text) :=
  [["|"], ["&"], ["<", "<=", "=", "==", "!=", ">=", ">"], ["+", "-"], ["*", "/", "%"], [":"]].map
    fun l => l.map String.toList

def exprPrimary (whole : List Text → ArgValue) : List Text → ArgValue
  | [] => none
  | a :: r =>
    match String.ofList a with
    | "(" =>
      match whole r with
      | some (v, [')'] :: r) => some (v, r)
      | _ => none
    | "+" => match r with
      | t :: r => some (t, r)
      | [] => none
    | "length" => match exprPrimary whole r with
      | some (t, r) => some (Text.ofNat t.length, r)
      | none => none
    | "match" => match r with
      | t :: p :: r => (matchStart t p).map fun v => (v, r)
      | _ => none
    | "index" => match r with
      | t :: cs :: r =>
        let i := t.findIdx cs.contains
        some (Text.ofNat (if i < t.length then i + 1 else 0), r)
      | _ => none
    | "substr" => match r with
      | t :: p :: n :: r =>
        match integer? (some 10) p, integer? (some 10) n with
        | some p, some n =>
          some (if p ≤ 0 || n ≤ 0 then [] else (t.drop (p.toNat - 1)).take n.toNat, r)
        | _, _ => some ([], r)
      | _ => none
    | _ => some (a, r)

def exprMore (operand : List Text → ArgValue) (level : List Text) : Nat → Text → List Text → ArgValue
  | 0, _, _ => none
  | n + 1, v, r =>
    match r with
    | sign :: r' =>
      if level.contains sign then
        match operand r' with
        | some (w, r) =>
          match combine sign v w with
          | some v => exprMore operand level n v r
          | none => none
        | none => none
      else some (v, r)
    | [] => some (v, [])

def exprLevel (whole : List Text → ArgValue) : List (List Text) → List Text → ArgValue
  | [], r => exprPrimary whole r
  | level :: stronger, r =>
    match exprLevel whole stronger r with
    | some (v, r) => exprMore (exprLevel whole stronger) level (r.length + 1) v r
    | none => none

def exprWhole : Nat → List Text → ArgValue
  | 0, _ => none
  | n + 1, r => exprLevel (exprWhole n) exprLevels r

def expr (c : Call) : Report :=
  let args := match c.args with
    | ['-', '-'] :: r => r
    | args => args
  match exprWhole (args.length + 1) args with
  | some (v, []) => .ofText c (v ++ ['\n']) (if isNothing v then 1 else 0)
  | _ => .misused c 2

end SecretWeave.Shell.Program
