import SecretWeave.CommandLine.Option
import SecretWeave.Text.Digits
import SecretWeave.Variables

/-!
# Invocations

The calls that are understood: `inject`, `run` and `config` with what they are given. A value
belongs to at most one use of an option, except for variables, which may be given any number of
times.
-/

namespace SecretWeave.CommandLine

structure InjectCall where
  inFile : Option Text
  file : Option Text
  fileMode : Nat
  force : Bool
  vars : List (Text × Text)
  templateVersion : Option Text
  source : Option Text
  deriving DecidableEq, Repr

structure RunCall where
  envarFile : Option Text
  vars : List (Text × Text)
  templateVersion : Option Text
  source : Option Text
  command : List Text
  deriving DecidableEq, Repr

inductive Invocation where
  | inject (call : InjectCall)
  | run (call : RunCall)
  | configInit
  | configShow
  deriving DecidableEq, Repr

/-! ## 1. Values -/

def versionVariable : Text := "SECRETINJECT_TEMPLATE_VERSION".toList

def sourceVariable : Text := "SECRETINJECT_SOURCE".toList

def isPair (s : Text) : Bool :=
  (Variables.readPair s).toOption.isSome

/-- Permissions in octal digits, of 32 bits; a plus sign may stand in front. -/
def readMode? (s : Text) : Option Nat :=
  let digits := match s with
    | '+' :: r => r
    | s => s
  (Text.readDigits? 8 digits).bind fun n => if n < Nat.pow 2 32 then some n else none

def defaultMode : Nat := 0o600

/-! ## 2. Options -/

def helpFlag : Flag := ⟨.help, "help".toList, some 'h', false, false, fun _ => true⟩

def pathFlag (setting : Setting) (long : Text) (letter : Char) : Flag :=
  ⟨setting, long, some letter, true, false, fun v => !v.isEmpty⟩

def commonFlags : List Flag :=
  [⟨.var, "var".toList, some 'v', true, true, isPair⟩,
    ⟨.templateVersion, "template-version".toList, none, true, false, fun _ => true⟩,
    ⟨.source, "source".toList, some 's', true, false, fun _ => true⟩, helpFlag]

def injectFlags : List Flag :=
  [pathFlag .inFile "in-file".toList 'i', pathFlag .file "file".toList 'f',
    ⟨.fileMode, "file-mode".toList, none, true, false, fun v => (readMode? v).isSome⟩,
    ⟨.force, "force".toList, none, false, false, fun _ => true⟩] ++
  commonFlags

def runFlags : List Flag :=
  pathFlag .envarFile "envar-file".toList 'e' :: commonFlags

/-! ## 3. Calls -/

def varsOf (a : Arguments) : List (Text × Text) :=
  (a.values .var).filterMap fun v => (Variables.readPair v).toOption

/-- The call of `inject` that arguments make; `env` gives the value of a variable of the
environment. -/
def injectCall (env : Text → Option Text) (args : List Text) : Except Refusal Invocation :=
  match Arguments.read injectFlags .refused args with
  | .error e => .error e
  | .ok a =>
    .ok (.inject
      { inFile := a.value .inFile
        file := a.value .file
        fileMode := ((a.value .fileMode).bind readMode?).getD defaultMode
        force := (a.value .force).isSome
        vars := varsOf a
        templateVersion := (a.value .templateVersion).or (env versionVariable)
        source := (a.value .source).or (env sourceVariable) })

def runCall (env : Text → Option Text) (args : List Text) : Except Refusal Invocation :=
  match Arguments.read runFlags .greedy args with
  | .error e => .error e
  | .ok a =>
    .ok (.run
      { envarFile := a.value .envarFile
        vars := varsOf a
        templateVersion := (a.value .templateVersion).or (env versionVariable)
        source := (a.value .source).or (env sourceVariable)
        command := a.operands })

def plainCall (call : Invocation) (args : List Text) : Except Refusal Invocation :=
  match Arguments.read [helpFlag] .refused args with
  | .error e => .error e
  | .ok _ => .ok call

def configCommands : List Text :=
  ["init", "show", "help"].map String.toList

def commands : List Text :=
  ["inject", "run", "config", "help"].map String.toList

/-- What comes of asking for help about a command, or about a command of `config`. -/
def helpAbout : List Text → Refusal
  | [] => .help
  | [a] => if commands.contains a then .help else .misused
  | [a, b] => if a = "config".toList ∧ configCommands.contains b then .help else .misused
  | _ => .misused

def configCall : List Text → Except Refusal Invocation
  | [] => .error .misused
  | a :: args =>
    match String.ofList a with
    | "init" => plainCall .configInit args
    | "show" => plainCall .configShow args
    | "help" => .error (helpAbout ("config".toList :: args))
    | "-h" => .error .help
    | "--help" => .error .help
    | _ => .error .misused

def Invocation.read (env : Text → Option Text) : List Text → Except Refusal Invocation
  | [] => .error .misused
  | a :: args =>
    match String.ofList a with
    | "inject" => injectCall env args
    | "run" => runCall env args
    | "config" => configCall args
    | "help" => .error (helpAbout args)
    | "-h" => .error .help
    | "--help" => .error .help
    | "-V" => .error .help
    | "--version" => .error .help
    | _ => .error .misused

end SecretWeave.CommandLine
