import SecretWeave.Environment
import SecretWeave.Shell.Command
import SecretWeave.Shell.Stream

/-!
# Sessions

What a shell knows while it runs: variables, functions, parameters, options, and which of its inputs
and outputs leads to which stream. A part of a script can end early, for one of a few reasons, and
other parts run while nobody waits for them.
-/

namespace SecretWeave.Shell

structure Variable where
  value : Option Text
  exported : Bool
  fixed : Bool

inductive Stop where
  | exit (status : Nat)
  | refused (status : Nat)
  | leave (loops : Nat)
  | proceed (loops : Nat)
  | back
  | killed (signal : Nat)
  | cut (signal : Nat)
  deriving DecidableEq

structure Context where
  vars : OrderedMap Text Variable
  functions : OrderedMap Text Command
  aliases : OrderedMap Text Text
  name : Text
  args : List Text
  status : Nat
  innerStatus : Nat
  options : List Char
  files : List (Nat × Nat)
  traps : List (Text × Text)
  scopes : List (List (Text × Option Variable))
  loops : Nat
  line : Nat
  process : Nat
  around : List Nat
  isPart : Bool
  letter : Nat
  mask : Nat
  running : Option Text
  ending : Option Nat
  strike : Option (Nat × Nat)

/-- A command that nobody waits for. What it does is found out once it matters: up to then it can
be stopped. -/
structure Job where
  number : Nat
  context : Context
  here : Location
  command : Command
  started : Nat
  status : Option Nat

structure Session extends Context where
  system : System
  jobs : List Job
  orphans : List Job

abbrev Act (α : Type) := ExceptT Stop (StateM Session) α

namespace Session

/-! ## 1. Variables -/

def value? (sh : Session) (name : Text) : Option Text :=
  (sh.vars.get? name).bind Variable.value

def has (sh : Session) (option : Char) : Bool :=
  sh.options.contains option

def usualSeparators : Text := [' ', '\t', '\n']

def separators (sh : Session) : Text :=
  (sh.value? "IFS".toList).getD usualSeparators

def store (sh : Session) (name value : Text) : Session :=
  let old := (sh.vars.get? name).getD ⟨none, false, false⟩
  { sh with
    vars := sh.vars.insert name
      { old with value := some value, exported := old.exported || sh.has 'a' }
    letter := if name = "OPTIND".toList then 0 else sh.letter }

def forget (sh : Session) (name : Text) : Session :=
  { sh with vars := sh.vars.keep (· != name) }

def restore (sh : Session) (saved : Text × Option Variable) : Session :=
  match saved.2 with
  | some v => { sh with vars := sh.vars.insert saved.1 v }
  | none => sh.forget saved.1

def row (name : Text) : Nat :=
  ((name.headD '\x00').toNat * 16 + sumOf (name.map Char.toNat)) % 39

def environment (sh : Session) : List (Text × Text) :=
  let given := sh.vars.entries.filterMap fun e =>
    if e.2.exported then e.2.value.map fun v => (e.1, v) else none
  (List.range 39).flatMap fun r => given.filter fun e => row e.1 = r

/-! ## 2. Streams -/

def stream? (sh : Session) (number : Nat) : Option Nat :=
  sh.files.lookup number

def lead (sh : Session) (number : Nat) (stream : Option Nat) : Session :=
  let rest := sh.files.filter fun f => f.1 != number
  { sh with files := match stream with
      | some s => (number, s) :: rest
      | none => rest }

def emit (sh : Session) (number : Nat) (t : Text) : Option Session :=
  if t.isEmpty then some sh
  else
    match sh.stream? number with
    | none => none
    | some s => (sh.system.write s t).map fun system => { sh with system }

def input (sh : Session) : Text :=
  match sh.stream? 0 with
  | some s => sh.system.readable s
  | none => []

def skipInput (sh : Session) (count : Nat) : Session :=
  match sh.stream? 0 with
  | some s => { sh with system := sh.system.skip s count }
  | none => sh

/-! ## 3. Shells of their own -/

/-- A shell after another one ran beside it: only what all programs share stays, and the jobs that
have not ended. -/
def rejoin (sh inner : Session) : Session :=
  { sh with
    system := { inner.system with disk := { inner.system.disk with here := sh.system.disk.here } }
    orphans := (inner.jobs ++ inner.orphans).filter fun j => j.status.isNone }

end Session

/-! ## 4. Steps -/

def say (message : Text) : Act Unit :=
  modify fun sh =>
    let running := match sh.running with
      | some name => name ++ ": ".toList
      | none => []
    let text := sh.name ++ ": ".toList ++ Text.ofNat sh.line ++ ": ".toList ++ running ++ message ++
      ['\n']
    (sh.emit 2 text).getD sh

def refuse (message : Text) (status : Nat) : Act α := do
  say message
  modify fun sh => { sh with status }
  throw (.refused status)

def assign (name value : Text) : Act Unit := do
  match (← get).vars.get? name with
  | some v =>
    if v.fixed then refuse (name ++ ": is read only".toList) 2
    else modify fun sh => sh.store name value
  | none => modify fun sh => sh.store name value

end SecretWeave.Shell
