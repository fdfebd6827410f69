import SecretWeave.Text.Digits

/-!
# Addresses of eight groups

An IPv6 address is eight groups of sixteen bits. It is written with colons between the groups, a
run of zero groups may be left out once, and the last two groups may be written as four decimal
numbers with dots. There is one normal form: lower case, no leading zeros, the first of the longest
runs of at least two zero groups left out.

Main fact: what is read has eight groups (`length_of_ofText?`).
-/

namespace SecretWeave.Ipv6

/-! ## 1. Reading -/

def group? (s : Text) : Option Nat :=
  if 4 < s.length then none else Text.readDigits? 16 s

def decimal? (s : Text) : Option Nat :=
  if 1 < s.length && s.head? == some '0' then none
  else (Text.readDigits? 10 s).bind fun n => if n ≤ 255 then some n else none

def dotted? (s : Text) : Option (List Nat) :=
  match (Text.split '.' s).map decimal? with
  | [some a, some b, some c, some d] => some [256 * a + b, 256 * c + d]
  | _ => none

def groups? (last : Bool) : List Text → Option (List Nat)
  | [] => some []
  | [p] => if last && p.contains '.' then dotted? p else (group? p).map fun n => [n]
  | p :: ps =>
    match group? p, groups? last ps with
    | some n, some ns => some (n :: ns)
    | _, _ => none

def side? (last : Bool) : Text → Option (List Nat)
  | [] => some []
  | s => groups? last (Text.split ':' s)

def gap? : Text → Option (Text × Text)
  | [] => none
  | ':' :: ':' :: r => some ([], r)
  | c :: r => (gap? r).map fun p => (c :: p.1, p.2)

def ofText? (s : Text) : Option (List Nat) :=
  match gap? s with
  | none =>
    match side? true s with
    | some gs => if gs.length = 8 then some gs else none
    | none => none
  | some (l, r) =>
    match side? false l, side? true r with
    | some ls, some rs =>
      if ls.length + rs.length ≤ 7 then
        some (ls ++ List.replicate (8 - (ls.length + rs.length)) 0 ++ rs)
      else none
    | _, _ => none

theorem length_of_ofText? {s : Text} {gs : List Nat} (h : ofText? s = some gs) :
    gs.length = 8 := by
  unfold ofText? at h
  split at h
  · split at h
    · split at h
      · obtain rfl := Option.some.inj h
        assumption
      · simp at h
    · simp at h
  · split at h
    · split at h
      · obtain rfl := Option.some.inj h
        simp only [List.length_append, List.length_replicate]
        omega
      · simp at h
    · simp at h

/-! ## 2. Writing -/

def zeros (gs : List Nat) : Nat :=
  (gs.takeWhile (· == 0)).length

/-- Place and length of the first of the longest runs of zeros; `before` counts the groups
passed. -/
def longestRun (before : Nat) : List Nat → Nat × Nat
  | [] => (before, 0)
  | g :: gs =>
    let later := longestRun (before + 1) gs
    if later.2 ≤ zeros (g :: gs) then (before, zeros (g :: gs)) else later

def joined (gs : List Nat) : Text :=
  (gs.map (Nat.toDigits 16)).intersperse [':'] |>.flatten

def text (gs : List Nat) : Text :=
  match longestRun 0 gs with
  | (start, n) =>
    if n < 2 then joined gs
    else joined (gs.take start) ++ [':', ':'] ++ joined (gs.drop (start + n))

end SecretWeave.Ipv6
