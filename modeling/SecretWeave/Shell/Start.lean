import SecretWeave.Child
import SecretWeave.Shell.Run

/-!
# Starting a process

What a program does that is started with an environment, an input and a disk: a shell, or one of the
programs of the disk. A name without slashes is searched in the directories that the environment of
the process names.
-/

namespace SecretWeave.Shell

def maxTasks : Nat := 20000

def hasNul (t : Text) : Bool :=
  t.contains '\x00'

def systemPath : Text := "/bin:/usr/bin".toList

def lookUp (d : Disk) (env : Environment) (name : Text) : Except SystemError Startable :=
  if !name.contains '/' && Disk.maxName < (Text.utf8 name).length then .error .nameTooLong
  else
    match startable d (Text.octets ((env.look "PATH".toList).getD systemPath)) (Text.octets name) with
    | .ok (.script _ _) => .error .notStartable
    | r => r

/-- The state in which a process starts: the first streams are its input, its output and its
messages. -/
def Session.initial (d : Disk) : Session where
  system := ⟨d, #[.buffer (.of (Text.ofOctets d.fed)), .buffer (.of []), .device .null], 1, 0, []⟩
  vars := ∅
  functions := ∅
  aliases := ∅
  name := []
  args := []
  status := 0
  innerStatus := 0
  options := []
  files := [(0, 0), (1, 1), (2, 2)]
  traps := []
  scopes := []
  loops := 0
  line := 1
  process := 100
  around := []
  isPart := false
  jobs := []
  orphans := []
  letter := 0
  mask := 0o022
  running := none
  ending := none
  strike := none

def childOf (r : Except Stop Unit × Session) : Child where
  ending := match r.1 with
    | .error (.killed _) => .killed
    | .error (.cut _) => .killed
    | .error (.exit n) => .exited n
    | .error (.refused n) => .exited n
    | _ => .exited r.2.status
  output := Text.toOctets (r.2.system.readable 1)
  disk := r.2.system.disk

def start (d : Disk) (env : Environment) : List Text → Except SystemError Child
  | [] => .error .notFound
  | name :: args =>
    let assignments := env.entries.map Environment.assignment
    if (name :: args).any hasNul || assignments.any hasNul then .error .strayNul
    else
      match lookUp d env name with
      | .error e => .error e
      | .ok s =>
        let task := runStartable (run maxTasks) (assignments.map Text.octets) (Text.octets name)
          (args.map Text.octets) s
        .ok (childOf (task.run (.initial d)))

theorem start_of_nul {d : Disk} {env : Environment} {command : List Text} {a : Text}
    (ha : a ∈ command) (hn : hasNul a = true) : start d env command = .error .strayNul := by
  cases command with
  | nil => simp at ha
  | cons name args =>
    have h : (name :: args).any hasNul = true := List.any_eq_true.2 ⟨a, ha, hn⟩
    simp [start, h]

end SecretWeave.Shell
