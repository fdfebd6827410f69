import SecretWeave.Shell.Expansion
import SecretWeave.Shell.Format
import SecretWeave.Shell.Program.Call
import SecretWeave.Shell.Signal
import SecretWeave.Shell.Test

/-!
# Built-in programs

The programs that a shell has built in and that need nothing but its own state: variables, options,
directories, arguments, reading a line and writing.
-/

namespace SecretWeave.Shell

def succeed (status : Nat) : Act Unit :=
  modify fun sh => { sh with status }

def write (t : Text) (status : Nat) : Act Unit := do
  let sh ← get
  match sh.emit 1 t with
  | some sh => set { sh with status }
  | none => do
    say "I/O error".toList
    succeed (max status 1)

def numberOf (a : Text) : Act Nat :=
  match count? a with
  | some n => pure n
  | none => refuse ("Illegal number: ".toList ++ a) 2

def letters (known : List Char) : List Text → Act (List Char × List Text)
  | [] => pure ([], [])
  | a :: rest =>
    match a with
    | ['-', '-'] => pure ([], rest)
    | '-' :: c :: cs =>
      match (c :: cs).find? fun c => !known.contains c with
      | some c => refuse ("Illegal option -".toList ++ [c]) 2
      | none => do
        let (more, operands) ← letters known rest
        return (c :: cs ++ more, operands)
    | a => pure ([], a :: rest)

/-! ## 1. Variables -/

def quoted (t : Text) : Text :=
  let pieces := (Text.split '\'' t).map fun p => '\'' :: p ++ ['\'']
  (pieces.intersperse "\"'\"".toList).flatten

def changeVariable (name : Text) (f : Variable → Variable) : Act Unit :=
  modify fun sh =>
    { sh with vars := sh.vars.insert name (f ((sh.vars.get? name).getD ⟨none, false, false⟩)) }

def declare (mark : Variable → Variable) (a : Text) : Act Unit := do
  let (name, value) := match Text.cut? '=' a with
    | some (name, value) => (name, some value)
    | none => (a, none)
  if !Text.isName name then refuse (a ++ ": bad variable name".toList) 2
  match value with
  | some v => assign name v
  | none => pure ()
  changeVariable name mark

def declarations (word : Text) (marked : Variable → Bool) (sh : Session) : Text :=
  let chosen := (sh.vars.entries.filter fun e => marked e.2).mergeSort fun a b => Text.atMost a.1 b.1
  chosen.flatMap fun e =>
    word ++ ' ' :: e.1 ++ (match e.2.value with
      | some v => '=' :: quoted v
      | none => []) ++ ['\n']

def mark (word : Text) (marked : Variable → Bool) (f : Variable → Variable) (args : List Text) :
    Act Unit := do
  let (given, operands) ← letters ['p'] args
  if operands.isEmpty || given.contains 'p' then write (declarations word marked (← get)) 0
  else do
    operands.forM (declare f)
    succeed 0

def unset (args : List Text) : Act Unit := do
  let (given, operands) ← letters ['v', 'f'] args
  operands.forM fun name => do
    let sh ← get
    if given.contains 'f' then
      set { sh with functions := sh.functions.keep (· != name) }
    else if !Text.isName name then refuse (name ++ ": bad variable name".toList) 2
    else if ((sh.vars.get? name).map Variable.fixed).getD false then
      refuse (name ++ ": is read only".toList) 2
    else set (sh.forget name)
  succeed 0

def localise (args : List Text) : Act Unit := do
  args.forM fun a => do
    let sh ← get
    match sh.scopes with
    | [] => refuse "not in a function".toList 2
    | scope :: outer => do
      let name := a.takeWhile (· != '=')
      if !Text.isName name then refuse (a ++ ": bad variable name".toList) 2
      if !scope.any fun e => e.1 = name then
        set { sh with scopes := ((name, sh.vars.get? name) :: scope) :: outer }
      match Text.cut? '=' a with
      | some (_, value) => assign name value
      | none => pure ()
  succeed 0

/-! ## 2. Options and arguments -/

def optionNames : List (Text × Option Char) :=
  [("errexit", some 'e'), ("noglob", some 'f'), ("ignoreeof", some 'I'), ("interactive", some 'i'),
    ("monitor", some 'm'), ("noexec", some 'n'), ("stdin", some 's'), ("xtrace", some 'x'),
    ("verbose", some 'v'), ("vi", some 'V'), ("emacs", some 'E'), ("noclobber", some 'C'),
    ("allexport", some 'a'), ("notify", some 'b'), ("nounset", some 'u'), ("privileged", some 'p'),
    ("nolog", none), ("debug", none)].map fun p => (p.1.toList, p.2)

def showOptions (sh : Session) : Text :=
  "Current option settings\n".toList ++ optionNames.flatMap fun o =>
    o.1 ++ List.replicate (16 - o.1.length) ' ' ++
      (if o.2.any sh.has then "on\n".toList else "off\n".toList)

def showOptionCalls (sh : Session) : Text :=
  optionNames.flatMap fun o =>
    "set ".toList ++ [if o.2.any sh.has then '-' else '+'] ++ "o ".toList ++ o.1 ++ ['\n']

def turn (on : Bool) (letter : Char) : Act Unit :=
  modify fun sh =>
    let rest := sh.options.filter (· != letter)
    { sh with options := if on then letter :: rest else rest }

def turnOptions : List Text → Act (Option (List Text))
  | [] => pure none
  | a :: rest =>
    match a with
    | ['-', '-'] => pure (some rest)
    | ['-'] => pure (if rest.isEmpty then none else some rest)
    | ['-', 'o'] | ['+', 'o'] =>
      match rest with
      | [] => do
        let sh ← get
        write (if a = ['-', 'o'] then showOptions sh else showOptionCalls sh) 0
        pure none
      | name :: rest =>
        match optionNames.lookup name with
        | some c => do
          c.toList.forM (turn (a = ['-', 'o']))
          turnOptions rest
        | none => refuse ("Illegal option ".toList ++ a ++ [' '] ++ name) 2
    | sign :: c :: cs =>
      if sign = '-' || sign = '+' then
        match (c :: cs).find? fun c => !optionLetters.contains c with
        | some c => refuse ("Illegal option ".toList ++ [sign, c]) 2
        | none => do
          (c :: cs).forM (turn (sign = '-'))
          turnOptions rest
      else pure (some (a :: rest))
    | [_] | [] => pure (some (a :: rest))

def showVariables (sh : Session) : Text :=
  let chosen := sh.vars.entries.mergeSort fun a b => Text.atMost a.1 b.1
  chosen.flatMap fun e => match e.2.value with
    | some v => e.1 ++ '=' :: quoted v ++ ['\n']
    | none => []

def setOptions (args : List Text) : Act Unit := do
  if args.isEmpty then write (showVariables (← get)) 0
  else do
    match ← turnOptions args with
    | some args => modify fun sh => { sh with args, letter := 0 }
    | none => pure ()
    succeed 0

def Session.shift (sh : Session) (n : Nat) : Session :=
  { sh with args := sh.args.drop n }

def shiftArgs (args : List Text) : Act Unit := do
  let n ← match args with
    | [] => pure 1
    | a :: _ => numberOf a
  if (← get).args.length < n then refuse "can't shift that many".toList 2
  modify fun sh => sh.shift n
  succeed 0

structure NextOption where
  sign : Char
  value : Option Text
  next : Nat
  letter : Nat
  found : Bool

/-- The next option of arguments, given the number of the argument and how many letters of the one
before it were read. -/
def nextOption (spec : Text) (args : List Text) (number letter : Nat) : NextOption :=
  let current := if number ≤ 1 || letter = 0 then [] else (args.getD (number - 2) []).drop letter
  let start : Option (Text × Nat) :=
    if !current.isEmpty then some (current, number)
    else
      match args[number - 1]? with
      | some ('-' :: c :: r) => some (c :: r, number + 1)
      | _ => none
  match start with
  | none => ⟨'?', none, number, 0, false⟩
  | some (['-'], number') =>
    if current.isEmpty then ⟨'?', none, number', 0, false⟩
    else ⟨'?', none, number', letter + 1, true⟩
  | some ([], number') => ⟨'?', none, number', 0, false⟩
  | some (c :: r, number') =>
    let silent := spec.head? = some ':'
    let after := if r.isEmpty then 0 else (args.getD (number' - 2) []).length - r.length
    let known := c != ':' && spec.contains c
    if !known then ⟨'?', if silent then some [c] else none, number', after, true⟩
    else if (spec.dropWhile (· != c)).drop 1 |>.head? |> (· == some ':') then
      if !r.isEmpty then ⟨c, some r, number', 0, true⟩
      else
        match args[number' - 1]? with
        | some v => ⟨c, some v, number' + 1, 0, true⟩
        | none => ⟨if silent then ':' else '?', if silent then some [c] else none, number', 0, true⟩
    else ⟨c, some [], number', after, true⟩

def getopts (args : List Text) : Act Unit := do
  match args with
  | spec :: name :: rest => do
    let sh ← get
    let operands := if rest.isEmpty then sh.args else rest
    let number := ((sh.value? "OPTIND".toList).bind count?).getD 1
    let o := nextOption spec operands (max number 1) sh.letter
    match o.value with
    | some v => assign "OPTARG".toList v
    | none => if o.found then modify fun sh => sh.forget "OPTARG".toList else pure ()
    assign "OPTIND".toList (Text.ofNat o.next)
    assign name [o.sign]
    modify fun sh => { sh with letter := o.letter }
    succeed (if o.found then 0 else 1)
  | _ => refuse "Usage: getopts optstring var [arg...]".toList 2

/-! ## 3. Reading a line -/

/-- A line of an input, with which characters are protected, how much was read and whether the line
was ended. A backslash protects a character and joins lines, unless it is to be an ordinary one. -/
def lineOf (raw : Bool) : Text → List Glyph × Nat × Bool
  | [] => ([], 0, false)
  | '\n' :: _ => ([], 1, true)
  | '\\' :: c :: r =>
    if raw then
      let (l, n, ended) := lineOf raw (c :: r)
      (⟨'\\', false⟩ :: l, n + 1, ended)
    else
      let (l, n, ended) := lineOf raw r
      (if c = '\n' then l else ⟨c, true⟩ :: l, n + 2, ended)
  | c :: r =>
    let (l, n, ended) := lineOf raw r
    (if c = '\x00' then l else ⟨c, false⟩ :: l, n + 1, ended)

def separates (separators : Text) (g : Glyph) : Bool :=
  !g.isProtected && separators.contains g.char

def separatesBlank (separators : Text) (g : Glyph) : Bool :=
  separates separators g && Session.usualSeparators.contains g.char

def valueAt (separators : Text) (l : List Glyph) : List Glyph × List Glyph :=
  let l := l.dropWhile (separatesBlank separators)
  let v := l.takeWhile fun g => !separates separators g
  let r := (l.drop v.length).dropWhile (separatesBlank separators)
  match r with
  | g :: r' => (v, if separates separators g then r'.dropWhile (separatesBlank separators) else r)
  | [] => (v, [])

def valuesOf (separators : Text) : Nat → List Glyph → List Text
  | 0, _ => []
  | 1, l =>
    let l := l.dropWhile (separatesBlank separators)
    let (v, r) := valueAt separators l
    [plain (if r.isEmpty then v else (l.reverse.dropWhile (separatesBlank separators)).reverse)]
  | n + 1, l =>
    let (v, r) := valueAt separators l
    plain v :: valuesOf separators n r

def readLine (args : List Text) : Act Unit := do
  -- a prompt is a message
  let args := match args with
    | ['-', 'p'] :: _ :: rest => rest
    | args => args
  let (given, names) ← letters ['r', 'p'] args
  if names.isEmpty then refuse "arg count".toList 2
  let sh ← get
  let (l, n, ended) := lineOf (given.contains 'r') sh.input
  set (sh.skipInput n)
  let values := valuesOf sh.separators names.length l
  (names.zip values).forM fun e => do
    if !Text.isName e.1 then refuse (e.1 ++ ": bad variable name".toList) 2
    assign e.1 e.2
  succeed (if ended then 0 else 1)

/-! ## 4. Directories and permissions -/

def Session.here (sh : Session) : Text :=
  Text.octets (Disk.pathOf sh.system.disk.here)

def changeDirectory (args : List Text) : Act Unit := do
  let (_, operands) ← letters ['L', 'P'] args
  let sh ← get
  let (target, shows) ← match operands with
    | [] =>
      match sh.value? "HOME".toList with
      | some h => pure (h, false)
      | none => refuse "HOME not set".toList 2
    | ['-'] :: _ => pure ((sh.value? "OLDPWD".toList).getD sh.here, true)
    | t :: _ => pure (t, false)
  match sh.system.disk.find (pathText (if target.isEmpty then ['.'] else target)) with
  | .ok (l, .directory) => do
    let before := sh.here
    set { sh with system := { sh.system with disk := { sh.system.disk with here := l } } }
    assign "OLDPWD".toList before
    changeVariable "OLDPWD".toList fun v => { v with exported := true }
    assign "PWD".toList (← get).here
    changeVariable "PWD".toList fun v => { v with exported := true }
    if shows then write ((← get).here ++ ['\n']) 0 else succeed 0
  | _ => refuse ("can't cd to ".toList ++ target) 2

def maskLetters (mask : Nat) : Text :=
  let party := fun (name : Char) (shift : Nat) =>
    let bits := 7 - mask / shift % 8
    [name, '='] ++ (if bits / 4 % 2 = 1 then ['r'] else []) ++
      (if bits / 2 % 2 = 1 then ['w'] else []) ++ (if bits % 2 = 1 then ['x'] else [])
  party 'u' 64 ++ [','] ++ party 'g' 8 ++ [','] ++ party 'o' 1

def octalText (n : Nat) : Text :=
  let ds := Nat.toDigits 8 n
  List.replicate (4 - ds.length) '0' ++ ds

def umask (modeOf : Nat → Nat → Text → Option Nat) (args : List Text) : Act Unit := do
  let (given, operands) ← letters ['S'] args
  let sh ← get
  match operands with
  | [] =>
    write ((if given.contains 'S' then maskLetters sh.mask else octalText sh.mask) ++ ['\n']) 0
  | a :: _ =>
    match digitsAt 8 a with
    | some (n, []) => do
      set { sh with mask := n % 0o1000 }
      succeed 0
    | _ =>
      if a.head?.any Char.isDigit then refuse ("Illegal number: ".toList ++ a) 2
      match modeOf 0 (0o777 - sh.mask % 0o1000) a with
      | some m => do
        set { sh with mask := 0o777 - m % 0o1000 }
        succeed 0
      | none => refuse ("Illegal mode: ".toList ++ a) 2

/-! ## 5. Signals -/

def trap (args : List Text) : Act Unit := do
  let args := match args with
    | ['-', '-'] :: args => args
    | args => args
  match args with
  | [] => do
    let sh ← get
    let order := sh.traps.mergeSort fun a b =>
      decide ((signalOf? a.1).getD 0 ≤ (signalOf? b.1).getD 0)
    write (order.flatMap fun t =>
      "trap -- ".toList ++ quoted t.2 ++ [' '] ++ t.1 ++ ['\n']) 0
  | first :: rest => do
    let (action, names) :=
      if rest.isEmpty || (count? first).isSome then (none, first :: rest)
      else if first = ['-'] then (none, rest)
      else (some first, rest)
    let trapOne := fun (sh : Session) (name : Text) =>
      (signalOf? name).map fun n =>
        let others := sh.traps.filter fun t => t.1 != signalName n
        { sh with traps := match action with
            | some a => (signalName n, a) :: others
            | none => others }
    trapEach trapOne names
where
  trapEach (trapOne : Session → Text → Option Session) : List Text → Act Unit
    | [] => succeed 0
    | name :: names => do
      match trapOne (← get) name with
      | some sh => do
        set sh
        trapEach trapOne names
      | none => do
        modify fun sh => (sh.emit 2 ("trap: ".toList ++ name ++ ": bad trap\n".toList)).getD sh
        succeed 1

/-! ## 6. Writing -/

def aliasLine (name value : Text) : Text :=
  name ++ '=' :: quoted value ++ ['\n']

def aliasing (args : List Text) : Act Unit := do
  if args.isEmpty then
    write ((← get).aliases.entries.flatMap fun e => aliasLine e.1 e.2) 0
  else do
    let mut status := 0
    for a in args do
      match Text.cut? '=' a with
      | some (c :: name, value) =>
        modify fun sh => { sh with aliases := sh.aliases.insert (c :: name) value }
      | _ =>
        match (← get).aliases.get? a with
        | some value => write (aliasLine a value) 0
        | none => do
          say (a ++ " not found".toList)
          status := 1
    succeed status

def unalias (args : List Text) : Act Unit := do
  let (given, operands) ← letters ['a'] args
  if given.contains 'a' then modify fun sh => { sh with aliases := ∅ }
  let sh ← get
  set { sh with aliases := sh.aliases.keep fun name => !operands.contains name }
  succeed (if operands.all fun name => (sh.aliases.get? name).isSome then 0 else 1)

def testBuiltin (name : Text) (args : List Text) : Act Unit := do
  let disk := (← get).system.disk
  let args ←
    if name = ['['] then
      if args.getLast? = some [']'] then pure args.dropLast else refuse "missing ]".toList 2
    else pure args
  match test disk args with
  | some b => succeed (if b then 0 else 1)
  | none => refuse "unexpected operator".toList 2

def simpleBuiltin? (name : Text) (args : List Text) : Option (Act Unit) :=
  match String.ofList name with
  | ":" | "true" => some (succeed 0)
  | "false" => some (succeed 1)
  | "echo" => some (write (echo .shell args) 0)
  | "printf" =>
    let (t, code) := printf .shell args
    some (write t code)
  | "test" | "[" => some (testBuiltin name args)
  | "pwd" => some do write ((← get).here ++ ['\n']) 0
  | "cd" | "chdir" => some (changeDirectory args)
  | "read" => some (readLine args)
  | "set" => some (setOptions args)
  | "shift" => some (shiftArgs args)
  | "unset" => some (unset args)
  | "local" => some (localise args)
  | "export" =>
    some (mark name Variable.exported (fun v => { v with exported := true }) args)
  | "readonly" => some (mark name Variable.fixed (fun v => { v with fixed := true }) args)
  | "getopts" => some (getopts args)
  | "trap" => some (trap args)
  | "times" => some (write "0m0.000000s 0m0.000000s\n0m0.000000s 0m0.000000s\n".toList 0)
  | "ulimit" => some (write "unlimited\n".toList 0)
  | "hash" => some (succeed 0)
  | "alias" => some (aliasing args)
  | "unalias" => some (unalias args)
  | "bg" | "fg" => some (refuse "No current job".toList 2)
  | _ => none

def builtinNames : List Text :=
  [".", ":", "[", "alias", "bg", "break", "cd", "chdir", "command", "continue", "echo", "eval",
    "exec", "exit", "export", "false", "fg", "getopts", "hash", "jobs", "kill", "local", "printf",
    "pwd", "read", "readonly", "return", "set", "shift", "test", "times", "trap", "true", "type",
    "ulimit", "umask", "unalias", "unset", "wait"].map String.toList

end SecretWeave.Shell
