import SecretWeave.Environment
import SecretWeave.Shell.Format
import SecretWeave.Shell.Program.Display
import SecretWeave.Shell.Program.Lines
import SecretWeave.Shell.Program.Paths
import SecretWeave.Shell.Program.Search
import SecretWeave.Shell.Signal
import SecretWeave.Shell.Test

/-!
# The programs of the disk

Which program has which name. Most programs look at what they are given and leave a report; a few
start another program in their place or again and again.
-/

namespace SecretWeave.Shell.Program

inductive Outcome where
  | report (report : Report)
  | replace (environment command : List Text)
  | pause (duration : Nat)
  | limited (duration signal : Nat) (keepsStatus : Bool) (environment command : List Text)
  | commands (commands : List (List Text))
  | shell

/-! ## 1. The environment -/

def printenv (c : Call) : Report :=
  match readFrontOptions [('0', "null", false)] c.args with
  | none => .misused c 2
  | some o =>
    let mark := if o.has '0' then '\x00' else '\n'
    match o.operands with
    | [] => .ofText c (c.environment.flatMap fun e => e ++ [mark]) 0
    | names =>
      let found := names.map fun n =>
        if n.contains '=' then none else Environment.valueIn c.environment n
      .ofText c ((found.filterMap id).flatMap fun v => v ++ [mark])
        (if found.all Option.isSome then 0 else 1)

def nameOf (assignment : Text) : Text :=
  assignment.takeWhile (· != '=')

def assignIn (environment : List Text) (a : Text) : List Text :=
  if environment.any fun e => nameOf e = nameOf a then
    environment.map fun e => if nameOf e = nameOf a then a else e
  else environment ++ [a]

def env (c : Call) : Outcome :=
  match readFrontOptions [('i', "ignore-environment", false), ('u', "unset", true),
      ('0', "null", false), ('C', "chdir", true), ('S', "split-string", true)]
      (c.args.map fun a => if a = ['-'] then "-i".toList else a) with
  | none => .report (.misused c 125)
  | some o =>
    let start := if o.has 'i' then [] else c.environment
    let start := (o.given.filter fun g => g.1 = 'u').foldl
      (fun es g => es.filter fun e => nameOf e != g.2) start
    let settings := o.operands.takeWhile fun a => a.contains '='
    let environment := settings.foldl assignIn start
    match o.operands.drop settings.length with
    | [] =>
      let mark := if o.has '0' then '\x00' else '\n'
      .report (.ofText c (environment.flatMap fun e => e ++ [mark]) 0)
    | command => .replace environment command

/-! ## 2. Programs that start programs -/

def inputWords : (word : Option Text) → (quote : Option Char) → Text → List Text
  | word, _, [] => word.toList.map List.reverse
  | word, some q, c :: r =>
    if c = q then inputWords (some (word.getD [])) none r
    else inputWords (some (c :: word.getD [])) (some q) r
  | word, none, '\\' :: c :: r => inputWords (some (c :: word.getD [])) none r
  | word, none, c :: r =>
    if c = '"' || c = '\'' then inputWords (some (word.getD [])) (some c) r
    else if isSpace c then
      match word with
      | some w => w.reverse :: inputWords none none r
      | none => inputWords none none r
    else inputWords (some (c :: word.getD [])) none r

def replaceAll (mark by' : Text) : Nat → Text → Text
  | 0, t => t
  | _ + 1, [] => []
  | n + 1, c :: r =>
    match Text.after? mark (c :: r) with
    | some rest => by' ++ replaceAll mark by' n rest
    | none => c :: replaceAll mark by' n r

def groupsOf (size : Nat) (ts : List Text) : List (List Text) :=
  (List.range ((ts.length + size - 1) / size)).map fun i => (ts.drop (i * size)).take size

def xargs (c : Call) : Outcome :=
  match readFrontOptions [('n', "max-args", true), ('I', "replace", true), ('0', "null", false),
      ('d', "delimiter", true), ('r', "no-run-if-empty", false), ('L', "max-lines", true),
      ('t', "verbose", false), ('P', "max-procs", true)] c.args with
  | none => .report (.misused c 1)
  | some o =>
    let command := if o.operands.isEmpty then ["echo".toList] else o.operands
    let separated := fun (sep : Char) =>
      let ts := Text.split sep c.input
      if ts.getLast? = some [] then ts.dropLast else ts
    let words :=
      if o.has '0' then separated '\x00'
      else
        match (o.value? 'd').map (unescape .shell) with
        | some (d :: _, _) => separated d
        | _ =>
          if o.has 'I' then
            (linesOf c.input).filterMap fun l =>
              let l := l.dropWhile isSpace
              if l.isEmpty then none else some l
          else inputWords none none c.input
    match o.value? 'I' with
    | some mark =>
      .commands (words.map fun w =>
        command.map fun a => replaceAll mark w (a.length + 1) a)
    | none =>
      match ((o.value? 'n').or (o.value? 'L')).map count? with
      | some none => .report (.misused c 1)
      | some (some 0) => .report (.misused c 1)
      | some (some n) => .commands ((groupsOf n words).map (command ++ ·))
      | none =>
        if words.isEmpty && o.has 'r' then .commands [] else .commands [command ++ words]

def before (c : Call) (specs : List OptionSpec) (operands : Nat) : Outcome :=
  match readFrontOptions specs c.args with
  | none => .report (.misused c 125)
  | some o =>
    match o.operands.drop operands with
    | [] => .report (.misused c 125)
    | command => .replace c.environment command

def duration? (t : Text) : Option Nat :=
  let whole := t.takeWhile Char.isDigit
  let rest := t.drop whole.length
  let (part, rest) := match rest with
    | '.' :: r => (r.takeWhile Char.isDigit, r.dropWhile Char.isDigit)
    | r => ([], r)
  let unit := match rest with
    | [] | ['s'] => some 1
    | ['m'] => some 60
    | ['h'] => some 3600
    | ['d'] => some 86400
    | _ => none
  let thousandths := (part ++ ['0', '0', '0']).take 3
  if whole.isEmpty && part.isEmpty then none
  else
    match Text.readDigits? 10 (whole ++ thousandths), unit with
    | some n, some u => some (n * u)
    | _, _ => none

def sleep (c : Call) : Outcome :=
  let args := if c.args.head? = some ['-', '-'] then c.args.drop 1 else c.args
  match args.mapM duration? with
  | none => .report (.misused c 1)
  | some [] => .report (.misused c 1)
  | some ts => .pause (sumOf ts)

def timeout (c : Call) : Outcome :=
  match readFrontOptions [('s', "signal", true), ('k', "kill-after", true), ('v', "verbose", false),
      ('f', "foreground", false), ('p', "preserve-status", false)] c.args with
  | none => .report (.misused c 125)
  | some o =>
    match o.operands with
    | [] | [_] => .report (.misused c 125)
    | time :: command =>
      match duration? time, signalOf? ((o.value? 's').getD "TERM".toList) with
      | some duration, some signal => .limited duration signal (o.has 'p') c.environment command
      | _, _ => .report (.misused c 125)

/-! ## 3. The table -/

def outcome? (name : Text) (c : Call) : Option Outcome :=
  let r := fun (f : Call → Report) => some (Outcome.report (f c))
  match String.ofList name with
  | "sh" | "dash" => some .shell
  | "true" => some (.report (.ofText c [] 0))
  | "false" => some (.report (.ofText c [] 1))
  | "sync" => some (.report (.ofText c [] 0))
  | "sleep" => some (sleep c)
  | "echo" => some (.report (.ofText c (echo .program c.args) 0))
  | "printf" =>
    let (t, code) := printf .program c.args
    some (.report (.ofText c t code))
  | "test" => some (.report (.misused c (testCode (test c.disk c.args))))
  | "[" =>
    some (.report (.misused c (if c.args.getLast? = some [']'] then
      testCode (test c.disk c.args.dropLast) else 2)))
  | "pwd" => some (.report (.ofText c (Text.octets (Disk.pathOf c.disk.here) ++ ['\n']) 0))
  | "printenv" => r printenv
  | "env" => some (env c)
  | "xargs" => some (xargs c)
  | "nohup" => some (before c [] 0)
  | "nice" => some (before c [('n', "adjustment", true)] 0)
  | "timeout" => some (timeout c)
  | "yes" =>
    let line := (if c.args.isEmpty then ['y'] else spaced c.args) ++ ['\n']
    some (.report (.ofText c (List.replicate 1000 line).flatten 1))
  | "uname" =>
    if c.args.all fun a => a = "-s".toList then some (.report (.ofText c "Linux\n".toList 0))
    else none
  | "cat" => r cat
  | "tac" => r tac
  | "rev" => r rev
  | "nl" => r nl
  | "head" => r head
  | "tail" => r tail
  | "wc" => r wc
  | "fold" => r fold
  | "base64" => r base64
  | "od" => r od
  | "tee" => r tee
  | "sort" => r sort
  | "uniq" => r uniq
  | "cut" => r cut
  | "paste" => r paste
  | "comm" => r comm
  | "tr" => r tr
  | "seq" => r seq
  | "basename" => r basename
  | "dirname" => r dirname
  | "mkdir" => r mkdir
  | "rmdir" => r rmdir
  | "rm" => r rm
  | "cp" => r cp
  | "mv" => r mv
  | "touch" => r touch
  | "chmod" => r chmod
  | "ls" => r ls
  | "realpath" => r realpath
  | "readlink" =>
    if c.args.head? = some "-f".toList || c.args.head? = some "-e".toList then r realpath
    else some (.report (.misused c 1))
  | "stat" => r stat
  | "grep" => r (grep [])
  | "egrep" => r (grep ['E'])
  | "fgrep" => r (grep ['F'])
  | "sed" => r sed
  | "expr" => r expr
  | _ => none
where
  testCode : Option Bool → Nat
    | some true => 0
    | some false => 1
    | none => 2

end SecretWeave.Shell.Program
