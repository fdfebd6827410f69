import SecretWeave.Shell.Integer

/-!
# Signals

The signals that a process may be sent, by their numbers and names. Most of them end a process that
does nothing about them.

Main fact: every signal of the table is found under its name (`signalOf?_name`).
-/

namespace SecretWeave.Shell

def signals : List (Nat × Text) :=
  [(0, "EXIT"), (1, "HUP"), (2, "INT"), (3, "QUIT"), (4, "ILL"), (5, "TRAP"), (6, "ABRT"),
    (7, "BUS"), (8, "FPE"), (9, "KILL"), (10, "USR1"), (11, "SEGV"), (12, "USR2"), (13, "PIPE"),
    (14, "ALRM"), (15, "TERM"), (16, "STKFLT"), (17, "CHLD"), (18, "CONT"), (19, "STOP"),
    (20, "TSTP"), (21, "TTIN"), (22, "TTOU"), (23, "URG"), (24, "XCPU"), (25, "XFSZ"),
    (26, "VTALRM"), (27, "PROF"), (28, "WINCH"), (29, "IO"), (30, "PWR"), (31, "SYS")].map
      fun p => (p.1, p.2.toList)

def signalOf? (t : Text) : Option Nat :=
  match count? t with
  | some n => if n ≤ 64 then some n else none
  | none =>
    let upper := t.map Char.toUpper
    let name := (Text.after? "SIG".toList upper).getD upper
    (signals.find? fun s => s.2 = name).map Prod.fst

def signalName (n : Nat) : Text :=
  (signals.lookup n).getD (Text.ofNat n)

def harmless : List Nat := [0, 17, 18, 23, 28]

theorem signalOf?_name : ∀ s ∈ signals, signalOf? s.2 = some s.1 := by decide

end SecretWeave.Shell
