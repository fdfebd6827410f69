import SecretWeave.CommandLine
import SecretWeave.Shell.Start

/-!
# The program

Reads what a call looks at, lets the library decide and carries the outcome out: prints, writes
files, and gives the exit code. Programs that `run` starts are those of the library's own shell, and
there is no keychain to ask.
-/

namespace SecretWeave.Program

def nameOf (l : Location) : String :=
  String.ofList (Disk.pathOf l)

def probe (l : Location) : IO (Option Node) := do
  if (Disk.standard? l).isSome then return none
  try
    return some (.file 0o600 (← IO.FS.readBinFile (nameOf l)).toList)
  catch
    | .noFileOrDirectory .. => return none
    -- what is there but cannot be read is known by its place only
    | .resourceBusy .. => return some (.file 0 [])
    | .permissionDenied .. => return some (.file 0 [])
    | _ => return some .directory

def learn (d : Disk) (l : Location) : IO Disk := do
  let mut disk := d
  for n in List.range l.length do
    match ← probe (l.take (n + 1)) with
    | some node => disk := disk.put (l.take (n + 1)) node
    | none => pure ()
  return disk

def learnPath (d : Disk) (path : Text) : IO Disk :=
  learn d ((Text.split '/' path).foldl Disk.step (d.origin path))

def refuses (d : Disk) (path : Text) : IO Bool := do
  match d.find path with
  | .ok (_, .file ..) =>
    try
      discard <| IO.FS.Handle.mk (String.ofList path) .read
      return false
    catch _ => return true
  | _ => return false

def environment : IO Environment := do
  let octets ← IO.FS.readBinFile "/proc/self/environ"
  let entries := Text.split '\x00' (Text.decode octets.toList)
  return OrderedMap.ofList (entries.filterMap (Text.cut? '='))

partial def readAll (s : IO.FS.Stream) (sofar : ByteArray) : IO ByteArray := do
  let more ← s.read 65536
  if more.isEmpty then return sofar else readAll s (sofar ++ more)

def pipedIn : IO (Option Bytes) := do
  let stdin ← IO.getStdin
  if ← stdin.isTty then return none
  return some (← readAll stdin .empty).toList

def readsInput : CommandLine.Invocation → Bool
  | .inject call => call.inFile.isNone
  | .run _ => true
  | .configInit => false
  | .configShow => false

def accessOf (bits : Nat) : IO.AccessRight :=
  ⟨bits / 4 % 2 == 1, bits / 2 % 2 == 1, bits % 2 == 1⟩

def rightsOf (mode : Nat) : IO.FileRight :=
  ⟨accessOf (mode / 64), accessOf (mode / 8), accessOf mode⟩

def carryOver (before after : Disk) : IO Unit := do
  for (l, node) in after.nodes.entries do
    match node with
    | .file mode content =>
      unless before.node? l = some node do
        IO.FS.writeBinFile (nameOf l) (ByteArray.mk content.toArray)
        if (before.node? l).isNone then
          IO.setAccessRights (nameOf l) (rightsOf mode)
    | _ => pure ()

def worldOf (call : Option CommandLine.Invocation) (env : Environment) : IO World := do
  let here := Text.split '/' (toString (← IO.currentDir)).toList
  let start ← learn ⟨∅, here.foldl Disk.step [], []⟩ (here.foldl Disk.step [])
  let configured ← learnPath start (CommandLine.configPath env)
  let config := match CommandLine.loadConfig { disk := configured, env } with
    | .ok (some c) => c
    | _ => .none
  let paths := match call with
    | some call => CommandLine.filesOf config call
    | none => []
  let disk ← paths.foldlM learnPath configured
  let closed ← (CommandLine.configPath env :: paths).filterM (refuses disk)
  return {
    disk, env, start := Shell.start
    refusal := fun access path =>
      if access = .read ∧ path ∈ closed then some .permissionDenied else none }

end SecretWeave.Program

open SecretWeave Program in
def main (args : List String) : IO UInt32 := do
  let args := args.map String.toList
  let env ← environment
  let call := (CommandLine.Invocation.read env.look args).toOption
  let seen ← worldOf call env
  let input ← if (call.map readsInput).getD false then pipedIn else pure none
  let world : World := { seen with disk := { seen.disk with fed := input.getD [] } }
  let outcome := CommandLine.perform world input args
  carryOver world.disk outcome.disk
  (← IO.getStdout).write (ByteArray.mk outcome.printed.toArray)
  match outcome.chain with
  | some texts => IO.eprintln ("Error: " ++ String.intercalate ": " (texts.map String.ofList))
  | none => if outcome.code = 2 then IO.eprint (String.ofList CommandLine.helpText)
  return UInt32.ofNat outcome.code
