import SecretWeave.Text.Basic

/-!
# Options of a command line

The arguments behind a command are options and operands. An option has a long name and perhaps
a letter; its value stands behind an equals sign, in the same argument behind the letter, or in the
next argument, which then does not look like an option. Behind `--` everything is an operand.
Arguments are read from left to right: what is wrong behind a request for help does not matter.
-/

namespace SecretWeave.CommandLine

inductive Setting where
  | inFile
  | file
  | fileMode
  | force
  | var
  | templateVersion
  | source
  | envarFile
  | help
  deriving DecidableEq, Repr

structure Flag where
  setting : Setting
  long : Text
  letter : Option Char
  takesValue : Bool
  repeats : Bool
  accepts : Text → Bool

inductive Refusal where
  | misused
  | help
  deriving DecidableEq, Repr

structure Arguments where
  /-- The options, in order; the value of an option that takes none is empty. -/
  given : List (Setting × Text)
  operands : List Text
  deriving DecidableEq, Repr

namespace Arguments

def none : Arguments := ⟨[], []⟩

def values (a : Arguments) (s : Setting) : List Text :=
  (a.given.filter fun g => g.1 = s).map Prod.snd

def value (a : Arguments) (s : Setting) : Option Text :=
  a.given.lookup s

/-- One option more. A request for help is met at once; a second use of an option that does not
repeat and a value that is not accepted are refused. -/
def give (a : Arguments) (f : Flag) (v : Text) : Except Refusal Arguments :=
  if f.setting = .help then .error .help
  else if (!f.repeats && (a.value f.setting).isSome) || !f.accepts v then .error .misused
  else .ok ⟨a.given ++ [(f.setting, v)], a.operands⟩

end Arguments

def looksLikeOption : Text → Bool
  | '-' :: _ :: _ => true
  | _ => false

def nextValue : List Text → Except Refusal (Text × List Text)
  | [] => .error .misused
  | v :: rest => if looksLikeOption v then .error .misused else .ok (v, rest)

/-- Reads the letters of an argument; the value of the last one may be in the next argument. Answers
the arguments that are left. -/
def readLetters (flags : List Flag) (rest : List Text) :
    Text → Arguments → Except Refusal (Arguments × List Text)
  | [], a => .ok (a, rest)
  | c :: r, a =>
    match flags.find? fun f => f.letter = some c with
    | Option.none => .error .misused
    | some f =>
      -- what follows such a letter is its value, letters included
      if f.takesValue then
        match r with
        | [] => do
          let (v, rest) ← nextValue rest
          return (← a.give f v, rest)
        | '=' :: v => do return (← a.give f v, rest)
        | v => do return (← a.give f v, rest)
      else
        match a.give f [] with
        | .error e => .error e
        | .ok a => readLetters flags rest r a

/-- Reads a long option, whose value may be in the next argument. Answers the arguments that are
left. -/
def readLong (flags : List Flag) (rest : List Text) (name : Text) (a : Arguments) :
    Except Refusal (Arguments × List Text) :=
  let (long, value) := match Text.cut? '=' name with
    | some (l, v) => (l, some v)
    | Option.none => (name, Option.none)
  match flags.find? fun f => f.long = long with
  | Option.none => .error .misused
  | some f =>
    match f.takesValue, value with
    | true, some v => do return (← a.give f v, rest)
    | true, Option.none => do
      let (v, rest) ← nextValue rest
      return (← a.give f v, rest)
    | false, some _ => .error .misused
    | false, Option.none => do return (← a.give f [], rest)

inductive Operands where
  | refused
  | greedy
  deriving DecidableEq, Repr

def Arguments.finish (a : Arguments) (ops : Operands) (operands : List Text) :
    Except Refusal Arguments :=
  if ops = .refused ∧ operands ≠ [] then .error .misused else .ok ⟨a.given, operands⟩

/-- Reads the arguments of a command from left to right, behind those that were read. The first
thing that is wrong is refused, unless help was asked for before. The number bounds the steps. -/
def readArguments (flags : List Flag) (ops : Operands) :
    Nat → List Text → Arguments → Except Refusal Arguments
  | 0, _, a => .ok a
  | _, [], a => .ok a
  | n + 1, arg :: rest, a =>
    match arg with
    -- the mark itself is dropped, once
    | ['-', '-'] => a.finish ops rest
    | '-' :: '-' :: name =>
      match readLong flags rest name a with
      | .error e => .error e
      | .ok (a, rest) => readArguments flags ops n rest a
    | '-' :: c :: r =>
      match readLetters flags rest (c :: r) a with
      | .error e => .error e
      | .ok (a, rest) => readArguments flags ops n rest a
    | arg => a.finish ops (arg :: rest)

def Arguments.read (flags : List Flag) (ops : Operands) (args : List Text) :
    Except Refusal Arguments :=
  readArguments flags ops (args.length + 1) args .none

end SecretWeave.CommandLine
