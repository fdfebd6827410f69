import SecretWeave.Shell.Builtin
import SecretWeave.Shell.Command.Script
import SecretWeave.Shell.Program.Table
import SecretWeave.Shell.Redirection

/-!
# Running commands

What a shell does for the commands of a script, and what programs do that are started. What runs
inside something else is a task; a run bounds how deep tasks stand in tasks, so that a script that
never ends is ended.
-/

namespace SecretWeave.Shell

inductive Task where
  | command (tested : Bool) (command : Command)
  | lines (tested : Bool) (cursor : Cursor)
  | round (tested succeeds : Bool) (condition body : Command) (status : Nat)
  | job (command : Command)
  | start (environment command : List Text)
  | shell (environment : List Text) (name : Text) (args : List Text)

abbrev Again := Task → Act Unit

/-! ## 1. Signals -/

def runScript (again : Again) (tested : Bool) (script : Text) : Act Unit := do
  again (.lines tested (.start script (← get).line))

def statusOf (sh : Session) : Option Stop → Nat
  | some (.exit n) => n
  | some (.refused n) => n
  | some (.killed n) => 128 + n
  | _ => sh.status

def receive (again : Again) (n : Nat) : Act Unit := do
  let sh ← get
  if n = 9 || n = 19 then throw (.killed n)
  match sh.traps.lookup (signalName n) with
  | some action =>
    if !action.isEmpty then do
      runScript again false action
      modify fun after => { after with status := sh.status }
  | none => if !harmless.contains n then throw (.killed n)

def deliver (again : Again) : Act (Option Nat) := do
  let sh ← get
  let (own, others) := sh.system.signals.partition fun s => s.1 = sh.process
  if sh.isPart || own.isEmpty then return none
  else do
    set { sh with system := { sh.system with signals := others } }
    own.forM fun s => receive again s.2
    return own.getLast?.map Prod.snd

/-! ## 2. Jobs and time -/

def Job.outcome (again : Again) (system : System) (job : Job) : Nat × System :=
  let inner : Session := { job.context with
    system := { system with disk := { system.disk with here := job.here }, clock := job.started }
    jobs := []
    orphans := [] }
  match (again (.job job.command)).run inner with
  | (.error (.cut n), after) => (128 + n, after.system)
  | (_, after) => (after.status, after.system)

def Job.strikeAt (j : Job) (time signal : Nat) : Job :=
  if j.context.strike.isNone then
    { j with context := { j.context with strike := some (time, signal) } }
  else j

def nextEnd (again : Again) (sh : Session) : Option (Job × Nat × System) :=
  ((sh.jobs.reverse ++ sh.orphans.reverse).filter fun j => j.status.isNone).foldl
    (fun first j =>
      let own := j.outcome again sh.system
      match first with
      | some (_, _, system) => if own.2.clock < system.clock then some (j, own) else first
      | none => some (j, own)) none

def Session.settled (sh : Session) (j : Job) (status : Nat) (system : System) : Session :=
  { sh with
    jobs := sh.jobs.map fun k => if k.number = j.number then { k with status := some status } else k
    orphans := sh.orphans.filter fun k => k.number != j.number
    system := { system with
      disk := { system.disk with here := sh.system.disk.here }
      clock := max sh.system.clock system.clock } }

def settleUpTo (again : Again) (time : Option Nat) : Nat → Act Unit
  | 0 => pure ()
  | n + 1 => do
    let sh ← get
    match nextEnd again sh with
    | none => pure ()
    | some (j, status, system) =>
      if time.all fun t => decide (system.clock ≤ t) then do
        set (sh.settled j status system)
        settleUpTo again time n

def settle (again : Again) (time : Option Nat) : Act Unit := do
  let sh ← get
  settleUpTo again time (sh.jobs.length + sh.orphans.length)

/-- Stops what a signal strikes, unless it has to do something else at the signal. Answers whether it
goes on with that. -/
def struck (n : Nat) : Act Bool := do
  let sh ← get
  if n ≠ 9 && (sh.traps.any (·.1 = signalName n) || harmless.contains n) then return true
  else throw (.cut n)

def pause (again : Again) (duration : Nat) : Act Unit := do
  let sh ← get
  let time := sh.system.clock + duration
  let wake : Act Unit := do
    modify fun sh => { sh with system := { sh.system with clock := time } }
    settle again (some time)
    let _ ← deliver again
  succeed 0
  match sh.strike with
  | some (t, n) =>
    if t < time then do
      set { sh with system := { sh.system with clock := max t sh.system.clock } }
      let _ ← struck n
      wake
      modify fun sh => { sh with strike := none, status := 0 }
      receive again n
    else wake
  | none => wake

def checkStrike (again : Again) : Act Unit := do
  let sh ← get
  match sh.strike with
  | some (t, n) =>
    if t ≤ sh.system.clock then do
      let _ ← struck n
      modify fun sh => { sh with strike := none }
      receive again n
  | none => pure ()

/-! ## 3. Shells of their own -/

def finish (again : Again) (status : Nat) : Act Nat := do
  let sh ← get
  match sh.traps.lookup "EXIT".toList with
  | none => return status
  | some action => do
    set { sh with
      traps := sh.traps.filter fun t => t.1 != "EXIT".toList
      status, ending := some status, scopes := [], loops := 0, running := none }
    tryCatch
      (do
        runScript again false action
        return status)
      fun
        | .exit n => return n
        | .killed n => throw (.killed n)
        | .cut n => throw (.cut n)
        | _ => return status

/-- Runs something as a shell of its own, and answers its status. Its jobs go on without it, unless
what they write is waited for. -/
def asChild (again : Again) (awaited : Bool) (act : Act Unit) : Act Nat := do
  let inner : Act Nat := do
    modify fun sh =>
      { sh with
        traps := sh.traps.filter (·.2.isEmpty), jobs := [], orphans := [], ending := none
        isPart := true }
    let stop ← tryCatch (do
        act
        return none)
      fun stop => return some stop
    let status ← match stop with
      | some (.cut n) => throw (.cut n)
      | some (.killed n) => pure (128 + n)
      | stop => finish again (statusOf (← get) stop)
    if awaited then settle again none
    return status
  let sh ← get
  let leaveBehind := fun (after : Session) =>
    let joined := sh.rejoin after
    { joined with orphans := joined.orphans ++ sh.orphans }
  match inner.run sh with
  | (.ok status, after) => do
    set (leaveBehind after)
    let _ ← deliver again
    return status
  | (.error stop, after) => do
    set (leaveBehind after)
    throw stop

def substitute (again : Again) (c : Command) : Act Text := do
  let sh ← get
  let (n, system) := sh.system.add (.buffer (.of []))
  set { sh with system }
  let status ← asChild again true do
    modify fun sh => sh.lead 1 (some n)
    again (.command false c)
  modify fun sh => { sh with innerStatus := status }
  return (← get).system.readable n

/-! ## 2. Compound commands -/

def checkFailure (tested : Bool) : Act Unit := do
  let sh ← get
  if !tested && sh.status ≠ 0 && sh.has 'e' then throw (.exit sh.status)

/-- Runs a part of a loop. Answers whether the loop goes on with the part that follows, starts
again or ends. -/
def loopPart (act : Act Unit) : Act (Option Bool) :=
  tryCatch (do
      act
      return none)
    fun
      | .leave n => if n ≤ 1 then return some false else throw (.leave (n - 1))
      | .proceed n => if n ≤ 1 then return some true else throw (.proceed (n - 1))
      | stop => throw stop

def inLoop (act : Act Unit) : Act Unit := do
  modify fun sh => { sh with loops := sh.loops + 1 }
  tryCatch (do
      act
      modify fun sh => { sh with loops := sh.loops - 1 })
    fun stop => do
      modify fun sh => { sh with loops := sh.loops - 1 }
      throw stop

def round (again : Again) (tested succeeds : Bool) (condition body : Command) (status : Nat) :
    Act Unit := do
  let next := fun (status : Nat) => again (.round tested succeeds condition body status)
  checkStrike again
  match ← loopPart (again (.command true condition)) with
  | some true => next status
  | some false => succeed status
  | none => do
    if ((← get).status = 0) = succeeds then
      match ← loopPart (again (.command tested body)) with
      | some false => pure ()
      | _ => next (← get).status
    else succeed status

def rounds (again : Again) (tested : Bool) (name : Text) (body : Command) : List Text → Act Unit
  | [] => pure ()
  | w :: ws => do
    assign name w
    match ← loopPart (again (.command tested body)) with
    | some false => pure ()
    | _ => rounds again tested name body ws

def anyFits (again : Again) (t : Text) : List Word → Act Bool
  | [] => return false
  | w :: ws => do
    let p ← patternOf (substitute again) w
    if p.fits t then return true else anyFits again t ws

def runBranch (again : Again) (tested : Bool) (t : Text) : List (List Word × Command) → Act Unit
  | [] => succeed 0
  | (ps, c) :: rest => do
    if ← anyFits again t ps then
      match c with
      | .nothing => succeed 0
      | c => again (.command tested c)
    else runBranch again tested t rest

/-- Runs commands each of which reads what the one before writes. The first command reads from a
stream, if one is given. -/
def runPipe (again : Again) (input : Option Nat) : List Command → Act Unit
  | [] => pure ()
  | c :: rest => do
    let output ←
      if rest.isEmpty then pure none
      else do
        let sh ← get
        let (n, system) := sh.system.add (.buffer (.of []))
        set { sh with system }
        pure (some n)
    let status ← asChild again true do
      modify fun sh =>
        let sh := match input with
          | some n => sh.lead 0 (some n)
          | none => sh
        match output with
        | some n => sh.lead 1 (some n)
        | none => sh
      again (.command false c)
    if rest.isEmpty then succeed status else runPipe again output rest

def runBackground (c : Command) : Act Unit :=
  modify fun sh =>
    let job : Job :=
      { number := sh.system.fresh
        context := { sh.toContext with isPart := true }
        here := sh.system.disk.here
        command := c
        started := sh.system.clock
        status := none }
    { sh with jobs := job :: sh.jobs, system := sh.system.withProcess, status := 0 }

def runJob (again : Again) (c : Command) : Act Unit := do
  let status ← asChild again false do
    let _ ← leadTo 0 (.device .null)
    again (.command false c)
  succeed status

/-! ## 3. Programs -/

def usualPath : Text :=
  "/usr/local/sbin:/usr/local/bin:/usr/sbin:/usr/bin:/sbin:/bin".toList

inductive Startable where
  | program (name : Text)
  | script (path : Text) (content : Text)

def startableAt (d : Disk) (path : Text) : Except SystemError Startable :=
  match d.find (pathText path) with
  | .error e => .error e
  | .ok (_, .program name) => .ok (.program name)
  | .ok (_, .file mode content) =>
    if mode &&& 0o111 != 0 then .ok (.script path (Text.ofOctets content))
    else .error .permissionDenied
  | .ok _ => .error .permissionDenied

/-- What a name leads to in directories. A file that may not be started is remembered, and one that
is not there is not. -/
def search (d : Disk) (name : Text) : Option SystemError → List Text → Except SystemError Startable
  | refused, [] => .error (refused.getD .notFound)
  | refused, dir :: dirs =>
    let path := if dir.isEmpty then name else dir ++ '/' :: name
    match startableAt d path with
    | .ok s => .ok s
    | .error .permissionDenied => search d name (some .permissionDenied) dirs
    | .error _ => search d name refused dirs

def startable (d : Disk) (path name : Text) : Except SystemError Startable :=
  if name.isEmpty then .error .notFound
  else if name.contains '/' then startableAt d name
  else search d name none (Text.split ':' path)

def emitAll : List (Nat × Text) → Act Bool
  | [] => return true
  | (n, t) :: rest => do
    match (← get).emit n t with
    | some sh => do
      set sh
      emitAll rest
    | none => do
      let _ ← emitAll rest
      return false

def leave (r : Report) : Act Unit := do
  modify fun sh =>
    let here := sh.system.disk.here
    let sh := sh.skipInput r.consumed
    { sh with system := { sh.system with disk := { r.disk with here, fed := sh.system.disk.fed } } }
  let taken ← emitAll r.written
  succeed (if taken then r.code else max r.code 1)

def callOf (sh : Session) (environment args : List Text) : Call where
  args := args
  environment := environment
  disk := { sh.system.disk with fed := Text.toOctets sh.input }
  input := sh.input
  fromFile := match (sh.stream? 0).bind fun n => sh.system.streams[n]? with
    | some (.file _) => true
    | _ => false
  mask := sh.mask

def startEach (again : Again) (environment : List Text) : Nat → List (List Text) → Act Unit
  | status, [] => succeed status
  | status, c :: cs => do
    withFiles do
      let _ ← leadTo 0 (.device .null)
      again (.start environment c)
    let own := (← get).status
    let status := if own = 0 then status else if own = 127 || own = 126 then own else 123
    startEach again environment status cs

def limited (duration signal : Nat) (keepsStatus : Bool) (act : Act Unit) : Act Unit := do
  let outer := (← get).strike
  let time := (← get).system.clock + duration
  let isFirst := outer.all fun s => decide (time < s.1)
  let restore : Act Unit := modify fun sh => { sh with strike := outer }
  if duration = 0 || !isFirst then act
  else do
    modify fun sh => { sh with strike := some (time, signal) }
    tryCatch (do
        act
        restore)
      fun
        | .cut n => do
          restore
          succeed (if n = 9 || keepsStatus then 128 + n else 124)
        | stop => do
          restore
          throw stop

def runProgram (again : Again) (environment : List Text) (called program : Text)
    (args : List Text) : Act Unit := do
  let sh ← get
  match Program.outcome? program (callOf sh environment args) with
  | none => succeed 127
  | some (.report r) => leave r
  | some (.pause duration) => pause again duration
  | some (.limited duration signal keepsStatus environment command) =>
    limited duration signal keepsStatus (again (.start environment command))
  | some (.replace environment command) => again (.start environment command)
  | some (.commands cs) => do
    modify fun sh => sh.skipInput sh.input.length
    startEach again environment 0 cs
  | some .shell => again (.shell environment called args)

def runStartable (again : Again) (environment : List Text) (called : Text) (args : List Text) :
    Startable → Act Unit
  | .program name => runProgram again environment called name args
  | .script path content =>
    match Text.after? ['#', '!'] content with
    | some r =>
      let line := (r.takeWhile (· != '\n')).dropWhile fun c => c = ' ' || c = '\t'
      let interpreter := line.takeWhile fun c => c != ' ' && c != '\t'
      let option := (line.drop interpreter.length).dropWhile fun c => c = ' ' || c = '\t'
      again (.start environment
        (interpreter :: (if option.isEmpty then [] else [option]) ++ path :: args))
    | none => again (.shell environment called (path :: args))

def startFailure : SystemError → Nat
  | .notFound => 127
  | .notDirectory => 127
  | .nameTooLong => 127
  | _ => 126

def sayNotStarted (name : Text) (e : SystemError) : Act Unit := do
  say (name ++ ": ".toList ++ (if e = .notFound then "not found".toList else e.reason))
  succeed (startFailure e)

def startProgram (again : Again) (environment : List Text) : List Text → Act Unit
  | [] => succeed 0
  | name :: args => do
    let path := (Environment.valueIn environment "PATH".toList).getD "/bin:/usr/bin".toList
    match startable (← get).system.disk path name with
    | .ok s => runStartable again environment name args s
    | .error e => succeed (startFailure e)

def Session.assignments (sh : Session) : List Text :=
  sh.environment.map Environment.assignment

def Session.path (sh : Session) : Text :=
  (sh.value? "PATH".toList).getD []

def callProgram (again : Again) (name : Text) (args : List Text) : Act Unit := do
  let sh ← get
  match startable sh.system.disk sh.path name with
  | .ok s => runStartable again sh.assignments name args s
  | .error e => sayNotStarted name e

/-! ## 4. Functions and built-in programs -/

def maxCalls : Nat := 1000

def callFunction (again : Again) (tested : Bool) (body : Command) (args : List Text) :
    Act Unit := do
  let before ← get
  if maxCalls ≤ before.scopes.length then
    refuse "Maximum function recursion depth (1000) reached".toList 2
  set { before with args, loops := 0, scopes := [] :: before.scopes, letter := 0 }
  let restore : Act Unit := modify fun sh =>
    let own := sh.scopes.headD []
    { own.foldl Session.restore sh with
      args := before.args, loops := before.loops, scopes := before.scopes, letter := before.letter }
  tryCatch (do
      again (.command tested body)
      restore)
    fun
      | .back => restore
      | stop => do
        restore
        throw stop

def loopsOf (args : List Text) : Act Nat := do
  let n ← match args with
    | [] => pure 1
    | a :: _ => numberOf a
  if n = 0 then refuse ("Illegal number: ".toList ++ args.headD []) 2
  return min n (← get).loops

def exitWith (args : List Text) : Act Unit := do
  let sh ← get
  match args with
  | [] => throw (.exit (sh.ending.getD sh.status))
  | a :: _ => do
    let n ← numberOf a
    throw (.exit (n % 256))

def runFile (again : Again) (args : List Text) : Act Unit := do
  match args with
  | [] => succeed 0
  | name :: _ => do
    let sh ← get
    let disk := sh.system.disk
    let paths :=
      if name.contains '/' then [name]
      else (Text.split ':' sh.path).map fun d =>
        if d.isEmpty then name else d ++ '/' :: name
    let found := paths.findSome? fun p => match disk.find (pathText p) with
      | .ok (_, .file _ content) => some (Text.ofOctets content)
      | .ok (_, .device _) => some []
      | _ => none
    match found with
    | none =>
      if name.contains '/' then refuse ("cannot open ".toList ++ name ++ ": No such file".toList) 2
      else refuse (name ++ ": not found".toList) 2
    | some script =>
      tryCatch (again (.lines false (.start script 1)))
        fun
          | .back => pure ()
          | stop => throw stop

def kill (again : Again) (args : List Text) : Act Unit := do
  match args with
  | [['-', 'l']] =>
    write ("0\n".toList ++ (signals.drop 1).flatMap fun s => s.2 ++ ['\n']) 0
  | [['-', 'l'], a] => do
    let n ← numberOf a
    match signals.lookup (if 128 < n then n - 128 else n) with
    | some name => write (name ++ ['\n']) 0
    | none => refuse ("invalid signal number or exit status: ".toList ++ a) 2
  | args => do
    let (signal, targets) := match args with
      | ['-', 's'] :: s :: ts => (s, ts)
      | ['-', '-'] :: ts => ("15".toList, ts)
      | ('-' :: c :: s) :: ts => (c :: s, ts)
      | ts => ("15".toList, ts)
    match signalOf? signal with
    | none => refuse ("invalid signal number or name: ".toList ++ signal) 2
    | some n => do
      if targets.isEmpty then refuse "Usage: kill [-s sigspec | -signum] pid...".toList 2
      succeed 0
      targets.forM (killOne again n)
where
  killOne (again : Again) (n : Nat) (target : Text) : Act Unit := do
    let sh ← get
    match digitsAt 10 target with
    | some (p, []) =>
      if p = sh.process && !sh.isPart then receive again n
      else if p = sh.process || sh.around.contains p then
        set { sh with system := { sh.system with signals := sh.system.signals ++ [(p, n)] } }
      else if p = 0 then
        throw (.killed n)
      else if sh.jobs.any fun j => j.number = p && j.status.isNone then
        set { sh with jobs := sh.jobs.map fun (j : Job) =>
          if j.number = p && n ≠ 0 then j.strikeAt sh.system.clock n else j }
      else do
        say "No such process".toList
        succeed 1
    | _ =>
      if target.head? = some '%' || target.head? = some '-' then succeed 1
      else refuse ("Illegal number: ".toList ++ target) 2

def waitForJob (again : Again) (number : Nat) : Act Nat := do
  let sh ← get
  match sh.jobs.find? fun j => j.number = number with
  | none => return 127
  | some j => do
    if j.status.isNone then settle again (some (j.outcome again sh.system).2.clock)
    return (((← get).jobs.find? fun j => j.number = number).bind Job.status).getD 127

def processOf? (sh : Session) (a : Text) : Option Nat :=
  match a with
  | '%' :: r =>
    match digitsAt 10 r with
    | some (n, []) => (sh.jobs.reverse[n - 1]?).map Job.number
    | _ => sh.jobs.head?.map Job.number
  | a => count? a

def wait (again : Again) (args : List Text) : Act Unit := do
  let mut status := 0
  if args.isEmpty then settle again none
  for a in args do
    match processOf? (← get) a with
    | some n => status ← waitForJob again n
    | none => refuse ("Illegal number: ".toList ++ a) 2
  succeed status
  match ← deliver again with
  | some n => succeed (128 + n)
  | none => pure ()

/-- A job as it is shown: its place, whether it is the first or second of those that are left, and its
state. -/
def jobLine (j : Job) (place left : Nat) : Text :=
  let state := match j.status with
    | none => "Running".toList
    | some 0 => "Done".toList
    | some n => "Done(".toList ++ Text.ofNat n ++ [')']
  '[' :: Text.ofNat place ++ "] ".toList ++
    [if left = 0 then '+' else if left = 1 then '-' else ' ', ' '] ++ state ++
    List.replicate (27 - state.length) ' ' ++ ['\n']

def jobLines : (left : Nat) → List Job → Text
  | _, [] => []
  | left, j :: js =>
    jobLine j (js.length + 1) left ++ jobLines (if j.status.isNone then left + 1 else left) js

def showJobs (again : Again) (args : List Text) : Act Unit := do
  settle again (some (← get).system.clock)
  let sh ← get
  if args.contains "-p".toList then
    write (sh.jobs.flatMap fun j => Text.ofNat j.number ++ ['\n']) 0
  else write (jobLines 0 sh.jobs) 0
  modify fun sh => { sh with jobs := sh.jobs.filter fun j => j.status.isNone }

def describe (sh : Session) (name : Text) : Option Text :=
  if Grammar.reserved.contains name then some " is a shell keyword".toList
  else if Grammar.specialCommands.contains name then some " is a special shell builtin".toList
  else if (sh.functions.get? name).isSome then some " is a shell function".toList
  else if builtinNames.contains name then some " is a shell builtin".toList
  else none

def programPath (sh : Session) (name : Text) : Option Text :=
  let path := sh.path
  if name.contains '/' then (startableAt sh.system.disk name).toOption.map fun _ => name
  else
    (Text.split ':' path).findSome? fun d =>
      let p := if d.isEmpty then name else d ++ '/' :: name
      (startableAt sh.system.disk p).toOption.map fun _ => p

def showType (args : List Text) : Act Unit := do
  let sh ← get
  let one := fun (name : Text) =>
    match describe sh name with
    | some t => (name ++ t, 0)
    | none =>
      match programPath sh name with
      | some p => (name ++ " is ".toList ++ p, 0)
      | none => (name ++ ": not found".toList, 127)
  let shown := args.map one
  write (shown.flatMap fun s => s.1 ++ ['\n']) (if shown.all fun s => s.2 = 0 then 0 else 127)

def showCommand (name : Text) : Act Unit := do
  let sh ← get
  if (describe sh name).isSome then write (name ++ ['\n']) 0
  else
    match programPath sh name with
    | some p => write (p ++ ['\n']) 0
    | none => succeed 127

def builtin? (again : Again) (tested : Bool) (name : Text) (args : List Text) :
    Option (Act Unit) :=
  match String.ofList name with
  | "break" => some do
    let n ← loopsOf args
    succeed 0
    if n ≠ 0 then throw (.leave n)
  | "continue" => some do
    let n ← loopsOf args
    succeed 0
    if n ≠ 0 then throw (.proceed n)
  | "return" => some do
    match args with
    | [] => pure ()
    | a :: _ => do succeed (← numberOf a)
    throw .back
  | "exit" => some (exitWith args)
  | "eval" => some do
    modify fun sh => { sh with running := none }
    runScript again tested (spaced args)
  | "." => some (runFile again args)
  | "exec" => some do
    match args with
    | [] => succeed 0
    | name :: args => do
      modify fun sh => { sh with running := none }
      if (startable (← get).system.disk (← get).path name).isOk then
        modify fun sh => { sh with traps := sh.traps.filter (·.2.isEmpty) }
      callProgram again name args
      throw (.exit (← get).status)
  | "kill" => some (kill again args)
  | "wait" => some (wait again args)
  | "jobs" => some (showJobs again args)
  | "type" => some (showType args)
  | "umask" => some (umask Program.modeOf args)
  | _ => simpleBuiltin? name args

def runBuiltin (survives : Bool) (name : Text) (act : Act Unit) : Act Unit := do
  let outer := (← get).running
  modify fun sh => { sh with running := some name }
  tryCatch (do
      act
      modify fun sh => { sh with running := outer })
    fun stop => do
      modify fun sh => { sh with running := outer }
      match stop, survives with
      | .refused n, true => succeed n
      | stop, _ => throw stop

def callName (again : Again) (tested plain : Bool) (name : Text) (args : List Text) : Act Unit := do
  let special := Grammar.specialCommands.contains name
  let sh ← get
  let asFunction := if plain || special then none else sh.functions.get? name
  match asFunction with
  | some body => callFunction again tested body args
  | none =>
    match builtin? again tested name args with
    | some act => runBuiltin (!special || plain) name act
    | none => callProgram again name args

def callPlain (again : Again) (tested : Bool) (args : List Text) : Act Unit := do
  match args with
  | [] => succeed 0
  | ['-', 'v'] :: name :: _ => showCommand name
  | ['-', 'V'] :: name :: _ => showType [name]
  | ['-', 'v'] :: [] | ['-', 'V'] :: [] => succeed 0
  | ['-', 'p'] :: name :: args => callName again tested true name args
  | ['-', '-'] :: name :: args => callName again tested true name args
  | name :: args => callName again tested true name args

/-! ## 5. Simple commands -/

def declaring : List Text := ["export", "readonly", "local"].map String.toList

def argument (again : Again) (declares : Bool) (w : Word) : Act (List Text) := do
  match if declares then Grammar.settingOf? w else none with
  | some (name, value) => return [name ++ '=' :: (← textOf (substitute again) .setting value)]
  | none => fieldTexts (substitute again) w

def arguments (again : Again) : List Text → List Word → Act (List Text)
  | sofar, [] => return sofar
  | sofar, w :: ws => do
    let sh ← get
    let declares := match sofar with
      | name :: _ => declaring.contains name && (sh.functions.get? name).isNone
      | [] => false
    let fields ← argument again declares w
    arguments again (sofar ++ fields) ws

def makeSettings (again : Again) (exported : Bool) : List (Text × Word) → Act Unit
  | [] => pure ()
  | (name, w) :: rest => do
    let value ← textOf (substitute again) .setting w
    assign name value
    if exported then changeVariable name fun v => { v with exported := true }
    makeSettings again exported rest

def withSettings (again : Again) (settings : List (Text × Word)) (act : Act Unit) : Act Unit := do
  let before := (← get).vars
  let saved := settings.map fun s => (s.1, before.get? s.1)
  let restore : Act Unit := modify fun sh => saved.foldl Session.restore sh
  tryCatch (do
      makeSettings again true settings
      act
      restore)
    fun stop => do
      restore
      throw stop

def runSimple (again : Again) (tested : Bool) (settings : List (Text × Word)) (words : List Word)
    (rs : List Redirection) : Act Unit := do
  modify fun sh => { sh with innerStatus := 0 }
  let args ← arguments again [] words
  let redirected := redirectAll (substitute again) rs
  match args with
  | [] =>
    withFiles do
      if ← redirected then
        makeSettings again false settings
        succeed (← get).innerStatus
  | name :: args =>
    if name = "exec".toList then
      -- what it redirects stays
      if ← redirected then
        makeSettings again (!args.isEmpty) settings
        callName again tested false name args
      else throw (.refused 2)
    else if Grammar.specialCommands.contains name then
      withFiles do
        if ← redirected then
          makeSettings again false settings
          callName again tested false name args
        else throw (.refused 2)
    else
      withFiles do
        if ← redirected then
          withSettings again settings do
            if name = "command".toList && ((← get).functions.get? name).isNone then
              callPlain again tested args
            else callName again tested false name args

/-! ## 6. Tasks -/

def runCommand (again : Again) (tested : Bool) (c : Command) : Act Unit := do
  if (← get).has 'n' then pure ()
  else
    match c with
    | .nothing => pure ()
    | .simple line settings words rs => do
      modify fun sh => { sh with line }
      runSimple again tested settings words rs
      checkFailure tested
    | .sequence a b => do
      again (.command tested a)
      again (.command tested b)
    | .both a b => do
      again (.command true a)
      if (← get).status = 0 then again (.command tested b)
    | .either a b => do
      again (.command true a)
      if (← get).status ≠ 0 then again (.command tested b)
    | .invert c => do
      again (.command true c)
      modify fun sh => { sh with status := if sh.status = 0 then 1 else 0 }
    | .pipe cs => do
      runPipe again none cs
      checkFailure tested
    | .background c => runBackground c
    | .subshell c rs => do
      let status ← asChild again false do
        if ← redirectAll (substitute again) rs then again (.command tested c)
      succeed status
      checkFailure tested
    | .redirected c rs =>
      withFiles do
        if ← redirectAll (substitute again) rs then again (.command tested c)
    | .choice condition yes no => do
      again (.command true condition)
      if (← get).status = 0 then again (.command tested yes)
      else
        match no with
        | .nothing => succeed 0
        | no => again (.command tested no)
    | .loop succeeds condition body =>
      inLoop (again (.round tested succeeds condition body 0))
    | .forEach name words body => do
      let ws ← wordTexts (substitute again) words
      succeed 0
      inLoop (rounds again tested name body ws)
    | .select w branches => do
      let t ← textOf (substitute again) .single w
      runBranch again tested t branches
    | .define name body => do
      modify fun sh => { sh with functions := sh.functions.insert name body }
      succeed 0

def runLines (again : Again) (tested : Bool) (c : Cursor) : Act Unit := do
  let c := { c with aliases := (← get).aliases.entries }
  match nextLine c with
  | none => refuse "Syntax error".toList 2
  | some none => pure ()
  | some (some (command, c)) => do
    again (.command tested command)
    again (.lines tested c)

structure Script where
  text : Option Text
  name : Text
  args : List Text

/-- What a shell is called with: options, and a script, a file or nothing. Answers a status if it
cannot start. -/
def scriptOf (d : Disk) (called : Text) (options : List Char) :
    List Text → Except Nat (Script × List Char)
  | [] => if options.contains 'c' then .error 2 else .ok (⟨none, called, []⟩, options)
  | a :: rest =>
    let operands := fun (rest : List Text) =>
      if options.contains 'c' then
        match rest with
        | [] => .error 2
        | [t] => .ok (⟨some t, called, []⟩, options)
        | t :: name :: args => .ok (⟨some t, name, args⟩, options)
      else if options.contains 's' then .ok (⟨none, called, rest⟩, options)
      else
        match rest with
        | [] => .ok (⟨none, called, []⟩, options)
        | file :: args =>
          match contentOf d file with
          | .ok t => .ok (⟨some t, file, args⟩, options)
          | .error _ => .error 2
    match a with
    | ['-', '-'] | ['-'] => operands rest
    | ['-', 'o'] =>
      match rest with
      | name :: rest =>
        match optionNames.lookup name with
        | some c => scriptOf d called (c.toList ++ options) rest
        | none => .error 2
      | [] => .error 2
    | '-' :: cs =>
      if cs.all fun c => c = 'c' || optionLetters.contains c then
        scriptOf d called (cs ++ options) rest
      else .error 2
    | '+' :: c :: cs =>
      if (c :: cs).all optionLetters.contains then
        scriptOf d called (options.filter fun o => !(c :: cs).contains o) rest
      else .error 2
    | a => operands (a :: rest)

def startVars (sh : Session) (environment : List Text) : OrderedMap Text Variable :=
  let given := environment.filterMap fun e => (Text.cut? '=' e).bind fun p =>
    if Text.isName p.1 then some (p.1, (⟨some p.2, true, false⟩ : Variable)) else none
  let own := fun (name value : String) => (name.toList, (⟨some value.toList, false, false⟩ : Variable))
  let vars := (OrderedMap.ofList given).insertAll
    [("IFS".toList, ⟨some Session.usualSeparators, false, false⟩), own "OPTIND" "1",
      ("PPID".toList, ⟨some (Text.ofNat sh.process), false, false⟩), own "PS1" "$ ", own "PS2" "> ", own "PS4" "+ "]
  let vars := if (vars.get? "PATH".toList).isSome then vars
    else vars.insert "PATH".toList ⟨some usualPath, false, false⟩
  let isHere := fun (p : Text) => p.head? = some '/' &&
    match sh.system.disk.find (pathText p) with
    | .ok (l, _) => l = sh.system.disk.here
    | .error _ => false
  let here := match ((vars.get? "PWD".toList).bind Variable.value).filter isHere with
    | some p => p
    | none => sh.here
  vars.insert "PWD".toList ⟨some here, true, false⟩

def runShell (again : Again) (environment : List Text) (called : Text) (args : List Text) :
    Act Unit := do
  let outer ← get
  match scriptOf outer.system.disk called [] args with
  | .error status => succeed status
  | .ok (script, options) => do
    let inner : Session :=
      { system := outer.system.withProcess
        vars := startVars outer environment
        functions := ∅
        aliases := ∅
        name := script.name
        args := script.args
        status := 0
        innerStatus := 0
        options := options
        files := outer.files
        traps := []
        scopes := []
        loops := 0
        line := 1
        process := outer.system.fresh
        around := outer.process :: outer.around
        isPart := false
        jobs := []
        orphans := []
        letter := 0
        mask := outer.mask
        running := none
        ending := none
        strike := outer.strike }
    let text := script.text.getD outer.input
    let inner := if script.text.isNone then inner.skipInput text.length else inner
    let act : Act Nat := do
      let stop ← tryCatch (do
          again (.lines false (.start text 1))
          return none)
        fun stop => return some stop
      match stop with
      | some (.cut n) => throw (.cut n)
      | some (.killed n) => throw (.killed n)
      | stop => finish again (statusOf (← get) stop)
    let (result, after) := act.run inner
    let joined := outer.rejoin after
    set { joined with orphans := joined.orphans ++ outer.orphans }
    if outer.around.isEmpty then settle again none
    let _ ← deliver again
    match result with
    | .ok status => succeed status
    | .error (.cut n) => throw (.cut n)
    | .error stop =>
      -- a shell that was killed is a child that was killed, unless it is the only one
      if outer.around.isEmpty then throw stop else succeed (statusOf after (some stop))

def runTask (again : Again) : Task → Act Unit
  | .command tested c => runCommand again tested c
  | .lines tested c => runLines again tested c
  | .round tested succeeds condition body status =>
    round again tested succeeds condition body status
  | .job c => runJob again c
  | .start environment command => startProgram again environment command
  | .shell environment name args => runShell again environment name args

def run : Nat → Task → Act Unit
  | 0, _ => throw (.exit 2)
  | n + 1, t => runTask (run n) t

end SecretWeave.Shell
