import SecretWeave.Shell.Integer
import SecretWeave.Shell.Pattern

/-!
# Regular expressions

Regular expressions in the two forms that programs know, the basic and the extended one. The first
place where an expression fits counts, and of two alternatives the one that fits more.
-/

namespace SecretWeave.Shell

inductive Regex where
  | empty
  | exact (c : Char)
  | any
  | set (inverted : Bool) (members : List Member)
  | both (a b : Regex)
  | either (a b : Regex)
  | repeated (r : Regex) (least : Nat) (most : Option Nat)
  | group (n : Nat) (r : Regex)
  | again (n : Nat)
  | start
  | finish
  | edge (starts ends : Bool)

namespace Regex

/-! ## 1. Reading -/

inductive Form where
  | basic
  | extended
  deriving DecidableEq

inductive Lexeme where
  | letter (c : Char)
  | set (inverted : Bool) (members : List Member)
  | sign (c : Char)
  | again (n : Nat)
  | edge (starts ends : Bool)

def Form.signs : Form → List Char
  | .basic => ['.', '*', '^', '$']
  | .extended => ['.', '*', '^', '$', '+', '?', '(', ')', '|', '\x7b']

def Form.escapedSigns : Form → List Char
  | .basic => ['(', ')', '|', '+', '?', '\x7b']
  | .extended => []

def setAt (r : Text) : Option (Lexeme × Text) :=
  let glyphs := fun (t : Text) => t.map fun c => (⟨c, c = '\\'⟩ : Glyph)
  let (inverted, r) := match r with
    | '^' :: r => (true, r)
    | r => (false, r)
  (Pattern.members (r.length + 1) true (glyphs r)).map fun p =>
    (.set inverted p.1, p.2.map Glyph.char)

def lexemes (form : Form) : Nat → Text → Option (List Lexeme)
  | 0, _ => none
  | _ + 1, [] => some []
  | n + 1, '\\' :: c :: r =>
    let l :=
      if form.escapedSigns.contains c then Lexeme.sign c
      else if c.isDigit && c ≠ '0' then .again (c.toNat - 48)
      else
        let word := [.named "alnum".toList, .range '_' '_']
        match c with
        | 'n' => .letter '\n'
        | 't' => .letter '\t'
        | 'w' => .set false word
        | 'W' => .set true word
        | 's' => .set false [.named "space".toList]
        | 'S' => .set true [.named "space".toList]
        | '<' => .edge true false
        | '>' => .edge false true
        | 'b' => .edge true true
        | c => .letter c
    (lexemes form n r).map (l :: ·)
  | n + 1, '[' :: r =>
    match setAt r with
    | some (l, r) => (lexemes form n r).map (l :: ·)
    | none => none
  | n + 1, c :: r =>
    (lexemes form n r).map ((if form.signs.contains c then .sign c else .letter c) :: ·)

def boundsAt (form : Form) (ls : List Lexeme) : Option (Nat × Option Nat × List Lexeme) :=
  let letters := (ls.takeWhile fun
    | .letter c => c ≠ '\x7d'
    | _ => false).filterMap fun
    | .letter c => some c
    | _ => none
  match ls.drop letters.length, form with
  | .letter '\x7d' :: r, _ =>
    match Text.cut? ',' letters with
    | none => (Text.readDigits? 10 letters).map fun n => (n, some n, r)
    | some (a, []) => (Text.readDigits? 10 a).map fun n => (n, none, r)
    | some (a, b) =>
      (Text.readDigits? 10 b).map fun m => ((Text.readDigits? 10 a).getD 0, some m, r)
  | _, _ => none

abbrev Parsed := Option (Regex × Nat × List Lexeme)

def readRepeats (form : Form) : Nat → Regex → List Lexeme → Option (Regex × List Lexeme)
  | 0, _, _ => none
  | n + 1, e, .sign '*' :: r => readRepeats form n (.repeated e 0 none) r
  | n + 1, e, .sign '+' :: r => readRepeats form n (.repeated e 1 none) r
  | n + 1, e, .sign '?' :: r => readRepeats form n (.repeated e 0 (some 1)) r
  | n + 1, e, .sign '\x7b' :: r =>
    match boundsAt form r with
    | some (least, most, r) => readRepeats form n (.repeated e least most) r
    | none => none
  | _ + 1, e, r => some (e, r)

def readPart (form : Form) (whole : Nat → List Lexeme → Parsed) (first : Bool) (groups : Nat)
    (ls : List Lexeme) : Parsed :=
  let one := fun (e : Regex) (r : List Lexeme) => some (e, groups, r)
  match ls with
  | .letter c :: r => one (.exact c) r
  | .set i ms :: r => one (.set i ms) r
  | .again n :: r => one (.again n) r
  | .edge s e :: r => one (.edge s e) r
  | .sign '.' :: r => one .any r
  | .sign '^' :: r => one (if first || form = .extended then .start else .exact '^') r
  | .sign '$' :: r =>
    let last := match r with
      | [] | .sign ')' :: _ | .sign '|' :: _ => true
      | _ => false
    one (if last || form = .extended then .finish else .exact '$') r
  | .sign '(' :: r =>
    match whole (groups + 1) r with
    | some (e, groups', .sign ')' :: r) => some (.group (groups + 1) e, groups', r)
    | _ => none
  | .sign '*' :: r => if first then one (.exact '*') r else none
  | .sign c :: r => if form = .basic && first then one (.exact c) r else none
  | [] => none

def readParts (form : Form) (whole : Nat → List Lexeme → Parsed) :
    Nat → (first : Bool) → Nat → List Lexeme → Parsed
  | 0, _, _, _ => none
  | n + 1, first, groups, ls =>
    match ls with
    | [] | .sign ')' :: _ | .sign '|' :: _ => some (.empty, groups, ls)
    | ls =>
      match readPart form whole first groups ls with
      | none => none
      | some (e, groups, r) =>
        match readRepeats form (r.length + 1) e r with
        | none => none
        | some (e, r) =>
          let anchored := match e with
            | .start => form = .basic
            | _ => false
          (readParts form whole n anchored groups r).map fun p => (.both e p.1, p.2)

def readWhole (form : Form) : Nat → Nat → List Lexeme → Parsed
  | 0, _, _ => none
  | n + 1, groups, ls =>
    match readParts form (readWhole form n) (ls.length + 1) true groups ls with
    | some (e, groups, .sign '|' :: r) =>
      (readWhole form n groups r).map fun p => (.either e p.1, p.2)
    | p => p

def ofText (form : Form) (t : Text) : Option Regex :=
  match lexemes form (t.length + 1) t with
  | none => none
  | some ls =>
    match readWhole form (ls.length + 2) 0 ls with
    | some (e, _, []) => some e
    | _ => none

def ofLetters (t : Text) : Regex :=
  t.foldr (fun c e => .both (.exact c) e) .empty

/-! ## 2. Fitting -/

abbrev Groups := List (Nat × Nat × Nat)

abbrev Fit := Option (Nat × Groups)

def isWordChar (c : Char) : Bool :=
  c.isAlphanum || c = '_'

def longer (a b : Fit) : Fit :=
  match a, b with
  | some x, some y => if x.1 < y.1 then b else a
  | some _, none => a
  | none, b => b

def repeatFit (once : Nat → Groups → (Nat → Groups → Fit) → Fit) (next : Nat → Groups → Fit) :
    Nat → Nat → Option Nat → Nat → Groups → Fit
  | 0, _, _, i, g => next i g
  | n + 1, least, most, i, g =>
    let more :=
      if most = some 0 then none
      else once i g fun j g =>
        if j = i && least = 0 then none
        else repeatFit once next n (least - 1) (most.map (· - 1)) j g
    match more with
    | some f => some f
    | none => if least = 0 then next i g else none

/-- Fits an expression at a place of a text, then what follows. Letters may be compared without
regard to their case. -/
def fitAt (s : Array Char) (fold : Bool) : Regex → Nat → Groups → (Nat → Groups → Fit) → Fit
  | .empty, i, g, next => next i g
  | .exact c, i, g, next =>
    match s[i]? with
    | some d => if c = d || (fold && c.toLower = d.toLower) then next (i + 1) g else none
    | none => none
  | .any, i, g, next => if i < s.size then next (i + 1) g else none
  | .set inverted ms, i, g, next =>
    match s[i]? with
    | some d =>
      let has := fun c => ms.any (Pattern.Member.has c)
      let found := has d || (fold && (has d.toLower || has d.toUpper))
      if found != inverted then next (i + 1) g else none
    | none => none
  | .both a b, i, g, next => fitAt s fold a i g fun j g => fitAt s fold b j g next
  | .either a b, i, g, next => longer (fitAt s fold a i g next) (fitAt s fold b i g next)
  | .repeated r least most, i, g, next =>
    repeatFit (fitAt s fold r) next (s.size + least + 1) least most i g
  | .group n r, i, g, next => fitAt s fold r i g fun j g => next j ((n, i, j) :: g)
  | .again n, i, g, next =>
    match g.lookup n with
    | some (a, b) =>
      let taken := s.extract a b
      if s.extract i (i + taken.size) = taken then next (i + taken.size) g else none
    | none => none
  | .start, i, g, next => if i = 0 then next i g else none
  | .finish, i, g, next => if i = s.size then next i g else none
  | .edge starts ends, i, g, next =>
    let isBefore := i ≠ 0 && (s[i - 1]?.any isWordChar)
    let isBehind := s[i]?.any isWordChar
    if (starts && !isBefore && isBehind) || (ends && isBefore && !isBehind) then next i g else none

/-- The first place from a place on where an expression fits: where it starts and ends, and its
groups. The number bounds the places. -/
def find (r : Regex) (fold : Bool) (s : Array Char) : Nat → Nat → Option (Nat × Nat × Groups)
  | 0, _ => none
  | n + 1, i =>
    if s.size < i then none
    else
      match fitAt s fold r i [] fun j g => some (j, g) with
      | some (j, g) => some (i, j, g)
      | none => find r fold s n (i + 1)

def findFrom (r : Regex) (fold : Bool) (s : Array Char) (i : Nat) : Option (Nat × Nat × Groups) :=
  find r fold s (s.size + 1) i

def isIn (r : Regex) (fold : Bool) (t : Text) : Bool :=
  (findFrom r fold t.toArray 0).isSome

end Regex

end SecretWeave.Shell
