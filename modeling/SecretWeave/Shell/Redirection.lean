import SecretWeave.Shell.Expansion

/-!
# Redirections

Inputs and outputs that are led elsewhere. What a redirection opens stays open as long as its
command runs; a redirection that cannot be made is a failure of that command.
-/

namespace SecretWeave.Shell

def redirectionFails (message : Text) : Act Bool := do
  say message
  modify fun sh => { sh with status := 2 }
  return false

def leadTo (number : Nat) (stream : Stream) : Act Bool := do
  modify fun sh =>
    let (n, system) := sh.system.add stream
    { sh with system }.lead number (some n)
  return true

def leadLike (number other : Nat) : Act Bool := do
  let sh ← get
  match sh.stream? other with
  | some n => do
    set (sh.lead number (some n))
    return true
  | none => redirectionFails (Text.ofNat other ++ ": Bad file descriptor".toList)

def cannotOpen (path : Text) (e : SystemError) : Text :=
  let reason := match e with
    | .notFound => "No such file".toList
    | e => e.reason
  "cannot open ".toList ++ path ++ ": ".toList ++ reason

def cannotCreate (path : Text) (e : SystemError) : Text :=
  let reason := match e with
    | .notFound => "Directory nonexistent".toList
    | e => e.reason
  "cannot create ".toList ++ path ++ ": ".toList ++ reason

def leadToDevice (number : Nat) : Device → Act Bool
  | .input => leadLike number 0
  | .output => leadLike number 1
  | .messages => leadLike number 2
  | d => leadTo number (.device d)

def leadToFile (number : Nat) (direction : Direction) (path : Text) : Act Bool := do
  let sh ← get
  let disk := sh.system.disk
  let reads := direction = .input || direction = .both
  let file := fun (l : Location) =>
    Stream.file ⟨l, 0, direction = .append, reads, direction ≠ .input⟩
  match disk.find (pathText path) with
  | .ok (l, .file mode _) =>
    if direction = .output && sh.has 'C' then redirectionFails (cannotCreate path .exists)
    else do
      if direction = .output || direction = .clobber then
        set { sh with system := { sh.system with disk := disk.put l (.file mode []) } }
      leadTo number (file l)
  | .ok (_, .device d) =>
    if d = .terminal then redirectionFails (cannotOpen path .noDevice) else leadToDevice number d
  | .ok (l, .directory) =>
    if direction = .input then leadTo number (file l)
    else redirectionFails (cannotCreate path .isDirectory)
  | .ok (l, .program _) =>
    if direction = .input then leadTo number (file l)
    else redirectionFails (cannotCreate path .permissionDenied)
  | .error e =>
    if direction = .input then redirectionFails (cannotOpen path e)
    else
      match disk.create (pathText path) (Disk.masked 0o666 sh.mask) [] with
      | .error e => redirectionFails (cannotCreate path e)
      | .ok disk => do
        set { sh with system := { sh.system with disk } }
        match disk.find (pathText path) with
        | .ok (l, _) => leadTo number (file l)
        | .error e => redirectionFails (cannotCreate path e)

def redirect (substitute : Command → Act Text) : Redirection → Act Bool
  | .to number direction target => do
    let t ← textOf substitute .single target
    match direction with
    | .here => leadTo number (.buffer (.of t))
    | .same =>
      if t = ['-'] then do
        modify fun sh => sh.lead number none
        return true
      else
        match digitsAt 10 t with
        | some (n, []) => leadLike number n
        | _ => refuse "Bad fd number".toList 2
    | d => leadToFile number d t

def redirectAll (substitute : Command → Act Text) : List Redirection → Act Bool
  | [] => pure true
  | r :: rs => do
    if ← redirect substitute r then redirectAll substitute rs else pure false

def withFiles (act : Act Unit) : Act Unit := do
  let files := (← get).files
  tryCatch
    (do
      act
      modify fun sh => { sh with files })
    fun stop => do
      modify fun sh => { sh with files }
      throw stop

end SecretWeave.Shell
