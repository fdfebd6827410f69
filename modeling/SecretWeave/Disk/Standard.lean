import SecretWeave.Text.Basic

/-!
# What every disk has

The directories, devices and programs that are found on every disk, whatever was put there: they
need not be listed, and nothing that is put elsewhere hides them.
-/

namespace SecretWeave

abbrev Location := List Text

inductive Device where
  | null
  | zero
  | full
  | terminal
  | input
  | output
  | messages
  deriving DecidableEq, Repr

namespace Disk

def standardDirectories : List Location :=
  ["bin", "boot", "dev", "dev/shm", "etc", "home", "lib", "media", "mnt", "opt", "proc", "root",
    "run", "sbin", "srv", "sys", "tmp", "usr", "usr/bin", "usr/lib", "usr/local", "usr/local/bin",
    "usr/local/sbin", "usr/sbin", "usr/share", "var", "var/log", "var/tmp"].map fun p =>
      Text.split '/' p.toList

def devices : List (Text × Device) :=
  [("null", .null), ("zero", .zero), ("full", .full), ("random", .zero), ("urandom", .zero),
    ("tty", .terminal), ("stdin", .input), ("stdout", .output), ("stderr", .messages)].map fun d =>
      (d.1.toList, d.2)

def programDirectories : List Location :=
  ["bin", "usr/bin"].map fun p => Text.split '/' p.toList

def programs : List Text :=
  ["[", "base64", "basename", "cat", "chmod", "comm", "cp", "cut", "dash", "dirname", "echo", "egrep",
    "env", "expr", "false", "fgrep", "fold", "grep", "head", "ls", "mkdir", "mv", "nice", "nl",
    "nohup", "od", "paste", "printenv", "printf", "pwd", "readlink", "realpath", "rev", "rm",
    "rmdir", "sed", "seq", "sh", "sleep", "sort", "stat", "sync", "tac", "tail", "tee", "test",
    "timeout", "touch", "tr", "true", "uname", "uniq", "wc", "xargs", "yes"].map String.toList

def device? (l : Location) : Option Device :=
  match l with
  | [dir, name] => if dir = "dev".toList then devices.lookup name else none
  | _ => none

def program? (l : Location) : Option Text :=
  match l.getLast? with
  | some name =>
    if programDirectories.contains l.dropLast && programs.contains name then some name else none
  | none => none

end Disk

end SecretWeave
