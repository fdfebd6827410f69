import SecretWeave.ChildEnvironment
import SecretWeave.CommandLine.Invocation
import SecretWeave.Config.File
import SecretWeave.Source

/-!
# The command line

What a call does: the exit code, what is printed, the files afterwards and, for a failure, its words
and those of its causes. The configuration is read first, whatever the call.

Main facts: a failure prints nothing and leaves all files as they are (`disk_fail`, `printed_fail`).
-/

namespace SecretWeave.CommandLine

structure Outcome where
  code : Nat
  printed : Bytes
  disk : Disk
  chain : Option (List Text)

namespace Outcome

def succeed (d : Disk) (printed : Text) : Outcome :=
  ⟨0, Text.utf8 printed, d, none⟩

def fail (w : World) (context : List Text) (f : Failure) : Outcome :=
  ⟨1, [], w.disk, some (context ++ f.chain)⟩

def failBare (w : World) (context : List Text) (e : SystemError) : Outcome :=
  ⟨1, [], w.disk, some (context ++ [e.message])⟩

end Outcome

/-! ## 1. Configuration -/

def within (path name : Text) : Text :=
  if path.getLast? = some '/' then path ++ name else path ++ '/' :: name

/-- The directory of configurations: a path from the root that the environment names, or one in the
home directory. -/
def configDirectory (env : Environment) : Text :=
  match env.look "XDG_CONFIG_HOME".toList with
  | some ('/' :: r) => '/' :: r
  | _ => within ((env.look "HOME".toList).getD []) ".config".toList

def configPath (env : Environment) : Text :=
  within (configDirectory env) "secretinject/config.toml".toList

def loadConfig (w : World) : Except Failure (Option Config) :=
  match w.refusal .read (configPath w.env) with
  -- a file that is not there is not opened, so it cannot be refused either
  | some e => if w.disk.has (configPath w.env) then .error (.system e) else .ok none
  | none => Config.loadFrom w.disk (configPath w.env)

def shown (choice : Option Text) : Text :=
  choice.getD "(none)".toList

/-- Whether the environment asks for colours where the output is no terminal. -/
def isColoured (env : Environment) : Bool :=
  match env.look "CLICOLOR_FORCE".toList with
  | some v => v != ['0']
  | none => false

def yellow (env : Environment) (s : Text) : Text :=
  if isColoured env then "\x1b[33m".toList ++ s ++ "\x1b[0m".toList else s

def showConfig (env : Environment) : Option Config → Text
  | some c =>
    "Configuration file: ".toList ++ configPath env ++ "\n\nSource:           ".toList ++
      shown c.source ++ "\nTemplate version: ".toList ++ shown c.templateVersion ++ ['\n']
  | none =>
    yellow env ['!'] ++
      " No configuration found. Run 'secretinject config init' to create one.\n".toList

/-! ## 2. What both commands need -/

structure Setup where
  vars : Bindings
  version : Version
  source : Source

def versionOf (selector : Text) : Except Failure Version :=
  match Version.ofSelector selector with
  | .ok v => .ok v
  | .error f => .error (.ofUsage f)

def setup (w : World) (c : Config) (vars : List (Text × Text)) (version source : Option Text) :
    Except Failure Setup :=
  match ((Variables.none.addEnvironment w.env.entries).addPairs vars).build with
  | .error e => .error e
  | .ok vars =>
    match versionOf (c.versionOr version) with
    | .error e => .error e
    | .ok v =>
      match Source.ofSpec (c.sourceOr source) with
      | .error e => .error e
      | .ok s => .ok ⟨vars, v, s⟩

/-! ## 3. Injecting -/

def finished (s : Text) : Text :=
  if s.getLast? = some '\n' then s else s ++ ['\n']

/-- The template of a call: a file, or what is piped in. Answers also the world behind it. -/
def templateOf (w : World) (input : Option Bytes) (call : InjectCall) :
    Except Failure (Text × World) :=
  match call.inFile with
  | none =>
    match input.map Text.decode? with
    | some (some s) => .ok (s, { w with disk := { w.disk with fed := [] } })
    | some none => .error (.system .invalidText)
    | none => .error .noInput
  | some path =>
    match w.read path with
    | .error e => .error (.system e)
    | .ok s => .ok (s, { w with disk := w.disk.afterRead path })

def writeResult (w : World) (path : Text) (mode : Nat) (force : Bool) (result : Bytes) :
    Except Failure Disk :=
  if w.disk.has path then
    if force then
      match w.guarded .write path (w.disk.overwrite path result) with
      | .error e => .error (.system e)
      | .ok d => .ok d
    else .error (.fileExists path)
  else
    match w.guarded .write path (w.disk.create path mode result) with
    | .error e => .error (.system e)
    | .ok d => .ok d

/-- What a place is called once links are followed: the places of a process's own inputs and
outputs lead to no name. -/
def nameOf (l : Location) : Node → Except Failure Text
  | .device .input | .device .output | .device .messages => .error (.system .notFound)
  | _ => .ok (Disk.pathOf l)

def deliver (w : World) (call : InjectCall) (result : Text) : Outcome :=
  match call.file with
  | none => .succeed w.disk result
  | some path =>
    match writeResult w path call.fileMode call.force (Text.utf8 result) with
    | .error e => .fail w [] e
    | .ok d =>
      -- the result has gone where it was to go, whatever follows
      let written := { w with disk := d }
      match d.find path with
      | .error e => .fail written [] (.system e)
      | .ok (l, node) =>
        match nameOf l node with
        | .ok name => .succeed d (name ++ ['\n'])
        | .error e =>
          { Outcome.fail written [] e with
            printed := if node = .device .output then Text.utf8 result else [] }

def injectCommand (w : World) (input : Option Bytes) (c : Config) (call : InjectCall) : Outcome :=
  match templateOf w input call with
  | .error e => .fail w [] e
  | .ok (raw, w') =>
    match setup w c call.vars call.templateVersion call.source with
    | .error e => .fail w [] e
    | .ok s =>
      match (inject s.version s.vars (s.source.lookup w') raw).outcome with
      | .error e => .fail w ["Failed to inject secrets".toList] e
      | .ok t => deliver w call (finished t)

/-! ## 4. Running -/

def usualEnvFile : Text := "secretinject.env".toList

def envFileOf (w : World) (call : RunCall) : Option Text :=
  call.envarFile.or (if w.disk.has usualEnvFile then some usualEnvFile else none)

/-- The content of the env file of a call, or the path that could not be read and why. -/
def readEnvFile (w : World) (call : RunCall) : Except (Text × SystemError) (Option Text) :=
  match envFileOf w call with
  | none => .ok none
  | some path =>
    match w.read path with
    | .error e => .error (path, e)
    | .ok s => .ok (some s)

def runCommand (w : World) (c : Config) (call : RunCall) : Outcome :=
  if call.command.isEmpty then .fail w [] .noCommand
  else
    match setup w c call.vars call.templateVersion call.source with
    | .error e => .fail w [] e
    | .ok s =>
      match readEnvFile w call with
      | .error (path, e) => .failBare w ["Failed to read ".toList ++ path] e
      | .ok file =>
        -- an env file that is the input has used it up before the command starts
        let w' := { w with disk := ((envFileOf w call).map w.disk.afterRead).getD w.disk }
        let child : ChildEnvironment := ⟨w.env.entries, file, s.version, s.vars⟩
        match (child.resolve (s.source.lookup w')).outcome with
        | .error e => .fail w ["Failed to resolve environment".toList] e
        | .ok env =>
          match w'.run env call.command with
          | .error e => .fail w ["Failed to run command".toList] e
          | .ok child => ⟨child.ending.code, child.output, child.disk, none⟩

/-! ## 5. Calls -/

def helpText : Text :=
  ["Usage:",
    "  secretinject inject [options]",
    "  secretinject run [options] -- <command> [args...]",
    "  secretinject config init|show"].flatMap fun line => line.toList ++ ['\n']

def filesOfSource (spec : Text) : List Text :=
  match Settings.ofSpec spec with
  | .ok (.dotenv path) => [path]
  | _ => []

def filesOf (c : Config) : Invocation → List Text
  | .inject call =>
    call.inFile.toList ++ call.file.toList ++ filesOfSource (c.sourceOr call.source)
  | .run call => call.envarFile.getD usualEnvFile :: filesOfSource (c.sourceOr call.source)
  | .configInit => []
  | .configShow => []

def carryOut (w : World) (input : Option Bytes) (call : Invocation) : Outcome :=
  match loadConfig w with
  | .error e => .fail w ["Failed to load secretinject configuration".toList] e
  | .ok config =>
    match call with
    | .inject call => injectCommand w input (config.getD .none) call
    | .run call => runCommand w (config.getD .none) call
    | .configShow => .succeed w.disk (showConfig w.env config)
    -- the choices are asked for at a terminal, and there is none
    | .configInit => ⟨1, [], w.disk, some ["The input device is not a TTY".toList]⟩

/-- What a call does, given what is piped in, if anything is; the world's disk leads to it too. -/
def perform (w : World) (input : Option Bytes) (args : List Text) : Outcome :=
  match Invocation.read w.env.look args with
  | .error .misused => ⟨2, [], w.disk, none⟩
  | .error .help => .succeed w.disk helpText
  | .ok call => carryOut w input call

end SecretWeave.CommandLine
