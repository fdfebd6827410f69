import SecretWeave.Disk.Standard
import SecretWeave.Failure
import SecretWeave.OrderedMap
import SecretWeave.Text.Utf8

/-!
# Disks

Files and directories, and what the system says when a path leads nowhere. A path is walked from the
root or from the working directory, step by step; every step but the last has to lead to
a directory, and so has the last before a final slash.

Main facts: what is put at a place is found there (`node?_put_self`), and every other place stays as it
is (`node?_put_of_ne`).
-/

namespace SecretWeave

inductive Node where
  | directory
  | file (mode : Nat) (content : Bytes)
  | device (device : Device)
  | program (name : Text)
  deriving DecidableEq, Repr

structure Disk where
  nodes : OrderedMap Location Node
  here : Location
  fed : Bytes

namespace Disk

/-! ## 1. Looking -/

def standard? (l : Location) : Option Node :=
  if standardDirectories.contains l then some .directory
  else
    match device? l, program? l with
    | some d, _ => some (.device d)
    | none, some name => some (.program name)
    | none, none => none

def node? (d : Disk) (l : Location) : Option Node :=
  if l = [] then some .directory else (d.nodes.get? l).or (standard? l)

def step (l : Location) (name : Text) : Location :=
  if name = [] ∨ name = ['.'] then l
  else if name = ['.', '.'] then l.dropLast
  else l ++ [name]

def maxName : Nat := 255

def maxPath : Nat := 4095

def walk (d : Disk) (l : Location) : List Text → Except SystemError Location
  | [] => .ok l
  | name :: names =>
    match d.node? l with
    | some .directory =>
      if maxName < (Text.utf8 name).length then .error .nameTooLong
      else d.walk (step l name) names
    | some _ => .error .notDirectory
    | none => .error .notFound

def origin (d : Disk) : Text → Location
  | '/' :: _ => []
  | _ => d.here

def place (d : Disk) (path : Text) (names : List Text) : Except SystemError Location :=
  if path = [] then .error .notFound
  else if maxPath < (Text.utf8 path).length then .error .nameTooLong
  else d.walk (d.origin path) names

def find (d : Disk) (path : Text) : Except SystemError (Location × Node) :=
  match d.place path (Text.split '/' path) with
  | .error e => .error e
  | .ok l =>
    match d.node? l with
    | some n => .ok (l, n)
    | none => .error .notFound

def has (d : Disk) (path : Text) : Bool :=
  match d.find path with
  | .ok _ => true
  | .error _ => false

def isInput (d : Disk) (path : Text) : Bool :=
  match d.find path with
  | .ok (_, .device .input) => true
  | _ => false

def readBytes (d : Disk) (path : Text) : Except SystemError Bytes :=
  match d.find path with
  | .error e => .error e
  | .ok (_, .file _ content) => .ok content
  | .ok (_, .directory) => .error .isDirectory
  | .ok (_, .device .input) => .ok d.fed
  | .ok (_, .device .terminal) => .error .noDevice
  | .ok (_, .device _) => .ok []
  -- what a program is made of is of no interest to a template
  | .ok (_, .program _) => .ok []

def read (d : Disk) (path : Text) : Except SystemError Text :=
  match d.readBytes path with
  | .error e => .error e
  | .ok octets =>
    match Text.decode? octets with
    | some s => .ok s
    | none => .error .invalidText

def afterRead (d : Disk) (path : Text) : Disk :=
  if d.isInput path then { d with fed := [] } else d

def pathOf : Location → Text
  | [] => ['/']
  | l => l.flatMap ('/' :: ·)

/-! ## 2. Changing -/

def put (d : Disk) (l : Location) (n : Node) : Disk :=
  { d with nodes := d.nodes.insert l n }

/-- The permissions that the system keeps of a file that is written to: not the permission to act
as the file's owner, and that to act as its group only if the group may not start it. -/
def keptMode (mode : Nat) : Nat :=
  let mode := mode % 0o4000
  if mode / 0o2000 % 2 = 1 ∧ mode / 0o10 % 2 = 1 then mode - 0o2000 else mode

def masked (mode mask : Nat) : Nat :=
  mode &&& (0o777 - mask % 0o1000)

def namesOf (path : Text) : List Text :=
  ((Text.split '/' path).reverse.dropWhile List.isEmpty).reverse

def newPlace (d : Disk) (path : Text) : Except SystemError Location :=
  match (namesOf path).getLast? with
  -- only slashes: the root, which is always there
  | none => if path = [] then .error .notFound else .error .exists
  | some name =>
    match d.place path (namesOf path).dropLast with
    | .error e => .error e
    | .ok l =>
      match d.node? l with
      | none => .error .notFound
      | some .directory =>
        if maxName < (Text.utf8 name).length then .error .nameTooLong
        else if (d.node? (step l name)).isSome then .error .exists
        else .ok (step l name)
      | some _ => .error .notDirectory

def create (d : Disk) (path : Text) (mode : Nat) (content : Bytes) : Except SystemError Disk :=
  match d.newPlace path with
  | .error .exists =>
    if path.getLast? = some '/' then .error .isDirectory else .error .exists
  | .error e => .error e
  | .ok l =>
    -- a final slash asks for a directory, and none is made here
    if path.getLast? = some '/' then .error .isDirectory
    else .ok (d.put l (.file (keptMode mode) content))

def overwrite (d : Disk) (path : Text) (content : Bytes) : Except SystemError Disk :=
  match d.find path with
  | .error e => .error e
  | .ok (l, .file mode _) => .ok (d.put l (.file (keptMode mode) content))
  | .ok (_, .directory) => .error .isDirectory
  | .ok (_, .device .full) => .error .noSpace
  | .ok (_, .device .terminal) => .error .noDevice
  | .ok (_, .device _) => .ok d
  | .ok (_, .program _) => .error .permissionDenied

def makeWay (d : Disk) : (done rest : Location) → Disk
  | _, [] => d
  | _, [_] => d
  | done, name :: rest =>
    let l := done ++ [name]
    (if (d.node? l).isSome then d else d.put l .directory).makeWay l rest

def write (d : Disk) (l : Location) (mode : Nat) (content : Bytes) : Disk :=
  (d.makeWay [] l).put l (.file mode content)

def erase (d : Disk) (l : Location) : Disk :=
  { d with nodes := d.nodes.keep (· != l) }

def namesIn (d : Disk) (l : Location) : List Text :=
  d.nodes.keys.filterMap fun k =>
    if k.dropLast = l then k.getLast? else none

def empty (here : Location) : Disk :=
  let d : Disk := ⟨∅, here, []⟩
  if here = [] then d else (d.makeWay [] here).put here .directory

/-! ## 3. Facts -/

theorem node?_put_self {l : Location} (h : l ≠ []) (d : Disk) (n : Node) :
    (d.put l n).node? l = some n := by
  simp [node?, put, h]

theorem node?_put_of_ne {l m : Location} (h : m ≠ l) (d : Disk) (n : Node) :
    (d.put l n).node? m = d.node? m := by
  unfold node? put
  split
  · rfl
  · rw [d.nodes.get?_insert_of_ne h n]

end Disk

end SecretWeave
