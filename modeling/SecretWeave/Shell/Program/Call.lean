import SecretWeave.Disk
import SecretWeave.Shell.Integer
import SecretWeave.Shell.Octets

/-!
# Calls of programs

What a program of the disk is given and what it leaves behind, and how it reads its options: letters
that may stand together, words behind two hyphens, values next to them or behind them. Options may
stand among the operands; two hyphens end them.
-/

namespace SecretWeave.Shell

structure Call where
  args : List Text
  environment : List Text
  disk : Disk
  input : Text
  fromFile : Bool
  mask : Nat

structure Report where
  code : Nat
  written : List (Nat × Text)
  consumed : Nat
  disk : Disk

namespace Report

def ofText (c : Call) (t : Text) (code : Nat) : Report :=
  ⟨code, [(1, t)], 0, c.disk⟩

def ofInput (c : Call) (t : Text) : Report :=
  ⟨0, [(1, t)], c.input.length, c.disk⟩

def misused (c : Call) (code : Nat) : Report :=
  ⟨code, [], 0, c.disk⟩

end Report

/-! ## 1. Options -/

abbrev OptionSpec := Char × String × Bool

structure Options where
  given : List (Char × Text)
  operands : List Text

namespace Options

def has (o : Options) (letter : Char) : Bool :=
  o.given.any fun g => g.1 = letter

def value? (o : Options) (letter : Char) : Option Text :=
  o.given.reverse.lookup letter

end Options

def specOf? (specs : List OptionSpec) (word : Text) : Option OptionSpec :=
  match specs.find? fun s => s.2.1.toList = word with
  | some s => some s
  | none =>
    match specs.filter fun s => s.2.1 != "" && (Text.after? word s.2.1.toList).isSome with
    | [s] => some s
    | _ => none

def readLetters (specs : List OptionSpec) : Text → List Text → Option (List (Char × Text) × List Text)
  | [], rest => some ([], rest)
  | c :: r, rest =>
    match specs.find? fun s => s.1 = c with
    | none => none
    | some (_, _, false) => (readLetters specs r rest).map fun p => ((c, []) :: p.1, p.2)
    | some (_, _, true) =>
      if r.isEmpty then
        match rest with
        | [] => none
        | v :: rest => some ([(c, v)], rest)
      else some ([(c, r)], rest)

def readWordOption (specs : List OptionSpec) (word : Text) (rest : List Text) :
    Option ((Char × Text) × List Text) :=
  let (name, value) := match Text.cut? '=' word with
    | some (name, value) => (name, some value)
    | none => (word, none)
  match specOf? specs name, value, rest with
  | some (c, _, false), none, rest => some ((c, []), rest)
  | some (c, _, true), some v, rest => some ((c, v), rest)
  | some (c, _, true), none, v :: rest => some ((c, v), rest)
  | _, _, _ => none

/-- The options and operands of arguments; none if there is an option that is not known. Where
`strict` says so, the first operand ends the options. The number bounds the steps. -/
def readWithin (specs : List OptionSpec) (strict : Bool) : Nat → List Text → Option Options
  | 0, _ => none
  | _ + 1, [] => some ⟨[], []⟩
  | n + 1, a :: rest =>
    match a with
    | ['-', '-'] => some ⟨[], rest⟩
    | '-' :: '-' :: word =>
      match readWordOption specs word rest with
      | none => none
      | some (g, rest) =>
        (readWithin specs strict n rest).map fun o => { o with given := g :: o.given }
    | '-' :: c :: letters =>
      match readLetters specs (c :: letters) rest with
      | none => none
      | some (gs, rest) =>
        (readWithin specs strict n rest).map fun o => { o with given := gs ++ o.given }
    | a =>
      if strict then some ⟨[], a :: rest⟩
      else (readWithin specs strict n rest).map fun o => { o with operands := a :: o.operands }

def readOptions (specs : List OptionSpec) (args : List Text) : Option Options :=
  readWithin specs false (args.length + 1) args

def readFrontOptions (specs : List OptionSpec) (args : List Text) : Option Options :=
  readWithin specs true (args.length + 1) args

/-! ## 2. Files -/

/-- What programs say in front of a path that they cannot use, and behind it; those that are not
listed say nothing. -/
def wordings : List (String × String × String) :=
  [("sort", "cannot read: ", ""), ("head", "cannot open '", "' for reading"),
    ("tail", "cannot open '", "' for reading"), ("tac", "failed to open '", "' for reading"),
    ("sed", "can't read ", ""), ("rev", "cannot open ", ""), ("rm", "cannot remove '", "'"),
    ("rmdir", "failed to remove '", "'"), ("mkdir", "cannot create directory '", "'"),
    ("touch", "cannot touch '", "'"), ("chmod", "cannot access '", "'"),
    ("cp", "cannot stat '", "'"), ("mv", "cannot stat '", "'"), ("ls", "cannot access '", "'"),
    ("stat", "cannot statx '", "'"), ("truncate", "cannot open '", "' for writing"),
    ("split", "cannot open '", "' for reading")]

def complaint (program : String) (path : Text) (e : SystemError) : Text :=
  let (front, back) := (wordings.lookup program).getD ("", "")
  program.toList ++ ": ".toList ++ front.toList ++ path ++ back.toList ++ ": ".toList ++ e.reason ++
    ['\n']

def contentOf (d : Disk) (path : Text) : Except SystemError Text :=
  (d.readBytes (Text.unoctets path)).map Text.ofOctets

def sourceOf (c : Call) (operand : Text) : Except SystemError Text :=
  if operand = ['-'] then .ok c.input else contentOf c.disk operand

structure Sources where
  texts : List (Text × Text)
  complaints : Text

def sourcesOf (program : String) (c : Call) (operands : List Text) : Sources :=
  (if operands.isEmpty then [['-']] else operands).foldl
    (fun s p =>
      match sourceOf c p with
      | .ok t => { s with texts := s.texts ++ [(p, t)] }
      | .error e => { s with complaints := s.complaints ++ complaint program p e })
    ⟨[], []⟩

def usesInput (operands : List Text) : Bool :=
  operands.isEmpty || operands.contains ['-']

def reportSources (c : Call) (operands : List Text) (s : Sources) (t : Text) : Report :=
  ⟨if s.complaints.isEmpty then 0 else 1, [(2, s.complaints), (1, t)],
    if usesInput operands then c.input.length else 0, c.disk⟩

/-! ## 3. Lines -/

def linesOf (t : Text) : List Text :=
  match t with
  | [] => []
  | t =>
    let ls := Text.split '\n' t
    if t.getLast? = some '\n' then ls.dropLast else ls

def unlines (ls : List Text) : Text :=
  ls.flatMap fun l => l ++ ['\n']

def fullLinesOf : Text → List Text
  | [] => []
  | c :: r =>
    if c = '\n' then ['\n'] :: fullLinesOf r
    else
      match fullLinesOf r with
      | [] => [[c]]
      | l :: ls => (c :: l) :: ls

def aligned (width n : Nat) : Text :=
  let t := Text.ofNat n
  List.replicate (width - t.length) ' ' ++ t

end SecretWeave.Shell
