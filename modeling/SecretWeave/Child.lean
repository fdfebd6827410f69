import SecretWeave.Disk
import SecretWeave.Environment

/-!
# Children

What a program leaves behind that was started as a child. One that was killed has no status of its own
and counts as a failure.
-/

namespace SecretWeave

inductive Ending where
  | exited (status : Nat)
  | killed
  deriving DecidableEq, Repr

def Ending.code : Ending → Nat
  | .exited n => n
  | .killed => 1

/-- A child that has ended: how, what it has written, and the disk that it leaves. -/
structure Child where
  ending : Ending
  output : Bytes
  disk : Disk

end SecretWeave
