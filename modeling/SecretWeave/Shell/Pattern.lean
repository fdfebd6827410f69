import SecretWeave.Text.Basic

/-!
# Patterns

Patterns for texts: a star fits anything, a question mark any octet, brackets an octet of a set. A
sign that is protected, by quotes or by a backslash, fits only itself. Brackets that are not closed
fit only themselves.

Main fact: a pattern without signs fits only its own text (`fits_exact`).
-/

namespace SecretWeave.Shell

structure Glyph where
  char : Char
  isProtected : Bool
  deriving DecidableEq, Repr

inductive Member where
  | range (first last : Char)
  | named (name : Text)

inductive Step where
  | exact (c : Char)
  | any
  | star
  | set (inverted : Bool) (members : List Member)

abbrev Pattern := List Step

namespace Pattern

/-! ## 1. Sets -/

def order (c : Char) : Int :=
  if c.toNat < 128 then c.toNat else (c.toNat : Int) - 256

def isPunctuation (c : Char) : Bool :=
  0x21 ≤ c.toNat && c.toNat ≤ 0x7E && !c.isAlphanum

def isOfClass (name : Text) (c : Char) : Bool :=
  match String.ofList name with
  | "alpha" => c.isAlpha
  | "digit" => c.isDigit
  | "alnum" => c.isAlphanum
  | "upper" => c.isUpper
  | "lower" => c.isLower
  | "space" => [' ', '\t', '\n', '\x0b', '\x0c', '\r'].contains c
  | "blank" => c = ' ' || c = '\t'
  | "punct" => isPunctuation c
  | "print" => 0x20 ≤ c.toNat && c.toNat ≤ 0x7E
  | "graph" => 0x21 ≤ c.toNat && c.toNat ≤ 0x7E
  | "cntrl" => c.toNat < 0x20 || c.toNat = 0x7F
  | "xdigit" => c.isDigit || ('a' ≤ c && c ≤ 'f') || ('A' ≤ c && c ≤ 'F')
  | _ => false

def classes : List Text :=
  ["alpha", "digit", "alnum", "upper", "lower", "space", "blank", "punct", "print", "graph",
    "cntrl", "xdigit"].map String.toList

def Member.has (c : Char) : Member → Bool
  | .range first last => order first ≤ order c && order c ≤ order last
  | .named name => isOfClass name c

def className? (gs : List Glyph) : Option (Text × List Glyph) :=
  match gs with
  | ⟨':', false⟩ :: r =>
    let name := (r.takeWhile fun g => g.char.isLower).map Glyph.char
    match r.drop name.length with
    | ⟨':', false⟩ :: ⟨']', false⟩ :: r => if classes.contains name then some (name, r) else none
    | _ => none
  | _ => none

def unescaped : List Glyph → Option (Char × List Glyph)
  | ⟨'\\', false⟩ :: g :: r => some (g.char, r)
  | g :: r => some (g.char, r)
  | [] => none

/-- The members between brackets, and what follows the closing one. The first one may be the
closing bracket itself. The number bounds the steps. -/
def members : Nat → (first : Bool) → List Glyph → Option (List Member × List Glyph)
  | 0, _, _ => none
  | _ + 1, _, [] => none
  | n + 1, first, g :: r =>
    if g = ⟨']', false⟩ && !first then some ([], r)
    else
      match if g = ⟨'[', false⟩ then className? r else none with
      | some (name, r) => (members n false r).map fun p => (.named name :: p.1, p.2)
      | none =>
        match unescaped (g :: r) with
        | none => none
        | some (c, ⟨'-', false⟩ :: e :: r) =>
          if e = ⟨']', false⟩ then
            (members n false (⟨'-', false⟩ :: e :: r)).map fun p => (.range c c :: p.1, p.2)
          else
            match unescaped (e :: r) with
            | some (d, r) => (members n false r).map fun p => (.range c d :: p.1, p.2)
            | none => none
        | some (c, r) => (members n false r).map fun p => (.range c c :: p.1, p.2)

/-! ## 2. Patterns -/

def bracketed? (r : List Glyph) : Option (Step × List Glyph) :=
  match r with
  | ⟨'!', false⟩ :: r =>
    (members (r.length + 1) true r).map fun p => (.set true p.1, p.2)
  | r => (members (r.length + 1) true r).map fun p => (.set false p.1, p.2)

def ofGlyphsWithin : Nat → List Glyph → Pattern
  | 0, _ => []
  | _ + 1, [] => []
  | n + 1, ⟨c, true⟩ :: r => .exact c :: ofGlyphsWithin n r
  | n + 1, ⟨'*', false⟩ :: r => .star :: ofGlyphsWithin n r
  | n + 1, ⟨'?', false⟩ :: r => .any :: ofGlyphsWithin n r
  | n + 1, ⟨'\\', false⟩ :: ⟨c, _⟩ :: r => .exact c :: ofGlyphsWithin n r
  | n + 1, ⟨'[', false⟩ :: r =>
    match bracketed? r with
    | some (s, r) => s :: ofGlyphsWithin n r
    | none => .exact '[' :: ofGlyphsWithin n r
  | n + 1, ⟨c, false⟩ :: r => .exact c :: ofGlyphsWithin n r

def ofGlyphs (gs : List Glyph) : Pattern :=
  ofGlyphsWithin gs.length gs

def anyEnd (test : Text → Bool) : Text → Bool
  | [] => test []
  | c :: r => test (c :: r) || anyEnd test r

def fits : Pattern → Text → Bool
  | [], s => s.isEmpty
  | .star :: p, s => anyEnd (fits p) s
  | .exact c :: p, d :: s => c = d && fits p s
  | .any :: p, _ :: s => fits p s
  | .set inverted ms :: p, d :: s => (ms.any (Member.has d) != inverted) && fits p s
  | _ :: _, [] => false

def hasSigns (gs : List Glyph) : Bool :=
  gs.any fun g => !g.isProtected && ['*', '?', '['].contains g.char

/-! ## 3. Cutting -/

def cuts (s : Text) : List Nat :=
  List.range (s.length + 1)

def cutStart (p : Pattern) (longest : Bool) (s : Text) : Text :=
  let lengths := if longest then (cuts s).reverse else cuts s
  match lengths.find? fun n => p.fits (s.take n) with
  | some n => s.drop n
  | none => s

def endCut? (p : Pattern) (longest : Bool) (s : Text) : Option Text :=
  let lengths := if longest then cuts s else (cuts s).reverse
  (lengths.find? fun n => p.fits (s.drop n)).map s.take

def cutEnd (p : Pattern) (longest : Bool) (s : Text) : Text :=
  (p.endCut? longest s).getD s

/-- Texts without a start that fits a pattern. The start lies in the first text, unless the pattern
fits it as a whole and the longest start is asked for: then nothing is left. -/
def cutStarts (p : Pattern) (longest : Bool) : List Text → List Text
  | [] => []
  | a :: rest => if longest && p.fits a then [[]] else p.cutStart longest a :: rest

/-- Texts up to the last one with an end that fits a pattern, without that end; none if there is no
such end. -/
def cutLastEnd? (p : Pattern) (longest : Bool) : List Text → Option (List Text)
  | [] => none
  | a :: rest =>
    match p.cutLastEnd? longest rest with
    | some r => some (a :: r)
    | none => (p.endCut? longest a).map fun b => [b]

/-- Texts without an end that fits a pattern. The longest end lies in the first text, and takes the
others with it. -/
def cutEnds (p : Pattern) (longest : Bool) (args : List Text) : List Text :=
  if longest then
    match args with
    | [] => []
    | a :: _ => ((p.endCut? longest a).map fun b => [b]).getD args
  else if p.fits [] then args
  else (p.cutLastEnd? longest args).getD args

theorem fits_exact (t s : Text) : fits (t.map .exact) s = decide (t = s) := by
  induction t generalizing s with
  | nil => cases s <;> simp [fits]
  | cons c t ih =>
    cases s with
    | nil => simp [fits]
    | cons d s => simp [fits, ih, Bool.decide_and]

end Pattern

end SecretWeave.Shell
