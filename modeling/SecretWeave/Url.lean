import SecretWeave.Url.Domain
import SecretWeave.Url.Path

/-!
# URLs

A URL has a scheme, perhaps a host, and a path; user information, the number behind a host, query
and fragment are read and checked but not kept. Most schemes have hosts and paths of a plain form;
the schemes of the web and of files insist on a host or take any number of slashes, and read
a backslash as a slash.

Main fact: the colon that ends the scheme is the text's first (`eq_of_schemeRest?`).
-/

namespace SecretWeave

structure Url where
  scheme : Text
  host : Option Text
  path : Text
  deriving DecidableEq, Repr

namespace Url

/-! ## 1. Before the parts -/

def isLayout (c : Char) : Bool :=
  c == '\t' || c == '\n' || c == '\r'

def isMargin (c : Char) : Bool :=
  c.toNat ≤ 0x20

def strip (s : Text) : Text :=
  ((s.dropWhile isMargin).reverse.dropWhile isMargin).reverse.filter fun c => !isLayout c

def schemeRest? : Text → Option (Text × Text)
  | [] => none
  | ':' :: r => some ([], r)
  | c :: r =>
    if c.isAlphanum || c == '+' || c == '-' || c == '.' then
      (schemeRest? r).map fun p => (c.toLower :: p.1, p.2)
    else none

theorem eq_of_schemeRest? {s a r : Text} (h : schemeRest? s = some (a, r)) :
    ∃ b, s = b ++ ':' :: r ∧ ':' ∉ b ∧ a = b.map Char.toLower := by
  fun_induction schemeRest? s generalizing a with
  | case1 => simp at h
  | case2 =>
    obtain ⟨rfl, rfl⟩ := Prod.mk.inj (Option.some.inj h)
    exact ⟨[], rfl, by simp, rfl⟩
  | case3 c _ hc _ ih =>
    obtain ⟨p, hp, he⟩ := Option.map_eq_some_iff.1 h
    obtain ⟨rfl, rfl⟩ := Prod.mk.inj he
    obtain ⟨b, rfl, hb, ha⟩ := ih hp
    exact ⟨c :: b, rfl, by simp [hb, Ne.symm (show c ≠ ':' from hc)], by rw [ha]; rfl⟩
  | case4 => simp at h

def scheme? : Text → Option (Text × Text)
  | c :: r => if c.isAlpha then schemeRest? (c :: r) else none
  | [] => none

inductive Manner where
  | plain
  | web
  | file
  deriving DecidableEq, Repr

def mannerOf (scheme : Text) : Manner :=
  if scheme = "file".toList then .file
  else if ["http", "https", "ws", "wss", "ftp"].any fun s => s.toList == scheme then .web
  else .plain

namespace Manner

def isSlash (m : Manner) (c : Char) : Bool :=
  c == '/' || (m != .plain && c == '\\')

def endsAuthority (m : Manner) (c : Char) : Bool :=
  m.isSlash c || c == '?' || c == '#'

end Manner

/-! ## 2. User information, host and number -/

def lastAt? : Text → Option (Text × Text)
  | [] => none
  | c :: r =>
    match lastAt? r with
    | some (a, b) => some (c :: a, b)
    | none => if c = '@' then some ([], r) else none

/-- Drops the user information. Tells whether there was any: a user or a password. -/
def dropUser (m : Manner) (s : Text) : Except Flaw (Bool × Text) :=
  let authority := s.takeWhile fun c => !m.endsAuthority c
  let rest := s.dropWhile fun c => !m.endsAuthority c
  match lastAt? authority with
  | none => .ok (false, s)
  -- nothing before and behind the sign is accepted at the very end of the text only
  | some ([], []) => if rest.isEmpty then .ok (false, []) else .error .emptyHost
  | some (user, r) => .ok (!user.isEmpty && user != [':'], r ++ rest)

/-- The host as written, up to its end or to the colon before its number. Colons in brackets
belong to it. -/
def splitHost (m : Manner) : Bool → Text → Text × Text
  | _, [] => ([], [])
  | inside, c :: r =>
    if m.endsAuthority c || (c == ':' && !inside) then ([], c :: r)
    else
      let inside := if c = '[' then true else if c = ']' then false else inside
      ((c :: (splitHost m inside r).1), (splitHost m inside r).2)

def skipNumber : Nat → Text → Except Flaw Text
  | _, [] => .ok []
  | n, c :: r =>
    if c.isDigit then
      let n' := 10 * n + (c.toNat - '0'.toNat)
      if n' < 65536 then skipNumber n' r else .error .badNumber
    else if Manner.endsAuthority .web c then .ok (c :: r)
    else .error .badNumber

def readHost (m : Manner) (s : Text) : Except Flaw (Text × Text) :=
  match splitHost m false s with
  | (written, rest) =>
    match (if m = .plain then readName written else readDomain written) with
    | .error e => .error e
    | .ok host =>
      match rest with
      | ':' :: r =>
        if host.isEmpty then .error .emptyHost
        else
          match skipNumber 0 r with
          | .error e => .error e
          | .ok r => .ok (host, r)
      | _ => .ok (host, rest)

def readAuthority (m : Manner) (s : Text) : Except Flaw (Text × Text) :=
  match dropUser m s with
  | .error e => .error e
  | .ok (user, s) =>
    match readHost m s with
    | .error e => .error e
    | .ok (host, rest) => if host.isEmpty && user then .error .emptyHost else .ok (host, rest)

/-! ## 3. The whole -/

def beforeQuery (s : Text) : Text :=
  s.takeWhile fun c => c != '?' && c != '#'

def slashed (s : Text) : Text :=
  s.map fun c => if c = '\\' then '/' else c

/-- A URL behind the colon of a plain scheme. Without two slashes it has no host, and without one
its path has no segments. -/
def readPlain (scheme : Text) : Text → Except Flaw Url
  | '/' :: '/' :: s =>
    match readAuthority .plain s with
    | .error e => .error e
    | .ok (host, rest) =>
      .ok ⟨scheme, if host.isEmpty then none else some host, readPath (beforeQuery rest)⟩
  | '/' :: s => .ok ⟨scheme, none, readPath ('/' :: beforeQuery s)⟩
  | s => .ok ⟨scheme, none, Percent.encode Percent.isForeign (beforeQuery s)⟩

def readWeb (scheme : Text) (s : Text) : Except Flaw Url :=
  match readAuthority .web (s.dropWhile (Manner.isSlash .web)) with
  | .error e => .error e
  | .ok (host, rest) =>
    .ok ⟨scheme, some host, readPath ('/' :: (slashed (beforeQuery rest)).drop 1)⟩

def readFile (scheme : Text) (s : Text) : Except Flaw Url :=
  match s with
  | a :: b :: r =>
    if Manner.isSlash .file a && Manner.isSlash .file b then
      let written := r.takeWhile fun c => !Manner.endsAuthority .file c
      let rest := r.dropWhile fun c => !Manner.endsAuthority .file c
      let path := readPath (slashed (beforeQuery rest))
      if written.isEmpty || isDrive written then
        .ok ⟨scheme, none, path⟩
      else
        match readDomain written with
        | .error e => .error e
        | .ok host => .ok ⟨scheme, some host, path⟩
    else .ok ⟨scheme, none, readPath (slashed (beforeQuery s))⟩
  | _ => .ok ⟨scheme, none, readPath (slashed (beforeQuery s))⟩

def ofText (s : Text) : Except Flaw Url :=
  match scheme? (strip s) with
  | none => .error .noScheme
  | some (scheme, rest) =>
    match mannerOf scheme with
    | .plain => readPlain scheme rest
    | .web => readWeb scheme rest
    | .file => readFile scheme rest

end Url

end SecretWeave
