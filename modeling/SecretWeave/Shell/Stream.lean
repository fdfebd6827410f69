import SecretWeave.Disk
import SecretWeave.Shell.Octets

/-!
# Streams

What the inputs and outputs of programs lead to. A stream is shared by all who were given it: what
one reads is gone for the others, and what one writes follows what another one wrote.
-/

namespace SecretWeave.Shell

structure Buffer where
  front : Text
  back : List Text

namespace Buffer

def of (t : Text) : Buffer := ⟨t, []⟩

def text (b : Buffer) : Text :=
  b.front ++ b.back.reverse.flatten

def add (b : Buffer) (t : Text) : Buffer :=
  { b with back := t :: b.back }

end Buffer

structure OpenFile where
  place : Location
  position : Nat
  grows : Bool
  readable : Bool
  writable : Bool

inductive Stream where
  | buffer (buffer : Buffer)
  | file (file : OpenFile)
  | device (device : Device)

structure System where
  disk : Disk
  streams : Array Stream
  processes : Nat
  clock : Nat
  signals : List (Nat × Nat)

namespace System

def add (s : System) (stream : Stream) : Nat × System :=
  (s.streams.size, { s with streams := s.streams.push stream })

def fresh (s : System) : Nat :=
  s.processes + 100

def withProcess (s : System) : System :=
  { s with processes := s.processes + 1 }

def put (s : System) (n : Nat) (stream : Stream) : System :=
  { s with streams := s.streams.setIfInBounds n stream }

def contentAt (s : System) (l : Location) : Text :=
  match s.disk.node? l with
  | some (.file _ content) => Text.ofOctets content
  | _ => []

def readable (s : System) (n : Nat) : Text :=
  match s.streams[n]? with
  | some (.buffer b) => b.text
  | some (.file f) => if f.readable then (s.contentAt f.place).drop f.position else []
  | some (.device .input) => Text.ofOctets s.disk.fed
  | some (.device _) => []
  | none => []

def skip (s : System) (n count : Nat) : System :=
  match s.streams[n]? with
  | some (.buffer b) => s.put n (.buffer (.of (b.text.drop count)))
  | some (.file f) => s.put n (.file { f with position := f.position + count })
  | some (.device .input) => { s with disk := { s.disk with fed := s.disk.fed.drop count } }
  | some (.device _) => s
  | none => s

def overlay (old : Text) (position : Nat) (t : Text) : Text :=
  old.take position ++ List.replicate (position - old.length) '\x00' ++ t ++
    old.drop (position + t.length)

def write (s : System) (n : Nat) (t : Text) : Option System :=
  if t.isEmpty then some s
  else
    match s.streams[n]? with
    | some (.buffer b) => some (s.put n (.buffer (b.add t)))
    | some (.file f) =>
      if f.writable then
        match s.disk.node? f.place with
        | some (.file mode content) =>
          let old := Text.ofOctets content
          let position := if f.grows then old.length else f.position
          let new := Text.toOctets (overlay old position t)
          let disk := s.disk.put f.place (.file (Disk.keptMode mode) new)
          some ({ s with disk }.put n (.file { f with position := position + t.length }))
        | _ => some s
      else none
    | some (.device .full) => none
    | some (.device .terminal) => none
    | some (.device _) => some s
    | none => none

end System

end SecretWeave.Shell
