import SecretWeave.Text.Digits
import SecretWeave.Toml.Layout

/-!
# Quoted text

TOML has four ways to quote a text. Double quotes know escapes, single quotes keep what they hold,
and either may be written three times, which admits line breaks and single quotation marks inside.
A writer picks the way that needs the fewest escapes.

Main fact: an escape takes at least one character (`length_escape?_lt`).
-/

namespace SecretWeave.Toml

/-! ## 1. Reading -/

def scalar? (size : Nat) (s : Text) : Option (Char × Text) :=
  if size ≤ s.length then
    ((Text.readDigits? 16 (s.take size)).bind Text.char?).map (·, s.drop size)
  else none

def escape? : Text → Option (Char × Text)
  | [] => none
  | c :: r =>
    match c with
    | 'b' => some ('\x08', r)
    | 't' => some ('\t', r)
    | 'n' => some ('\n', r)
    | 'f' => some ('\x0c', r)
    | 'r' => some ('\r', r)
    | '"' => some ('"', r)
    | '\\' => some ('\\', r)
    | 'u' => scalar? 4 r
    | 'U' => scalar? 8 r
    | _ => none

theorem length_scalar?_le {size : Nat} {s r : Text} {c : Char}
    (h : scalar? size s = some (c, r)) : r.length ≤ s.length := by
  unfold scalar? at h
  split at h
  · obtain ⟨_, _, he⟩ := Option.map_eq_some_iff.1 h
    obtain ⟨_, rfl⟩ := Prod.mk.inj he
    simp
  · simp at h

theorem length_escape?_lt {s r : Text} {c : Char} (h : escape? s = some (c, r)) :
    r.length < s.length := by
  cases s with
  | nil => simp [escape?] at h
  | cons d t =>
    suffices r.length ≤ t.length by simp; omega
    simp only [escape?] at h
    split at h
    case h_8 => exact length_scalar?_le h
    case h_9 => exact length_scalar?_le h
    case h_10 => simp at h
    all_goals
      obtain ⟨_, rfl⟩ := Prod.mk.inj (Option.some.inj h)
      exact Nat.le_refl _

def push (c : Char) (p : Text × Text) : Text × Text :=
  (c :: p.1, p.2)

def readBasic (s : Text) : Option (Text × Text) :=
  match s with
  | [] => none
  | c :: r =>
    if c = '"' then some ([], r)
    else if c = '\\' then
      match _h : escape? r with
      | some (e, r') => (readBasic r').map (push e)
      | none => none
    else if isPlain c then (readBasic r).map (push c)
    else none
termination_by s.length
decreasing_by
  · have := length_escape?_lt _h
    simp only [List.length_cons]
    omega
  · simp

def readLiteral : Text → Option (Text × Text)
  | [] => none
  | c :: r =>
    if c = '\'' then some ([], r)
    else if isPlain c then (readLiteral r).map (push c)
    else none

def continuation? (s : Text) : Option Text :=
  (newline? (skipBlanks s)).map skipLayout

theorem length_continuation?_lt {s r : Text} (h : continuation? s = some r) :
    r.length < s.length := by
  obtain ⟨t, ht, rfl⟩ := Option.map_eq_some_iff.1 h
  have h₁ := length_newline?_lt ht
  have h₂ := length_skipBlanks_le s
  have h₃ := length_skipLayout_le t
  omega

/-- The text in three quotation marks and what follows, from behind the opening marks. Up to two
marks in a row belong to the text, also before the closing three. -/
def readMulti (mark : Char) (s : Text) : Option (Text × Text) :=
  match s with
  | [] => none
  | c :: r =>
    if c = mark then
      let n := (r.takeWhile (· == mark)).length + 1
      if n < 3 then (readMulti mark r).map (push c)
      else if n ≤ 5 then some (List.replicate (n - 3) mark, (c :: r).drop n)
      else none
    else
      match _hn : newline? (c :: r) with
      | some r' => (readMulti mark r').map (push '\n')
      | none =>
        if c = '\\' ∧ mark = '"' then
          match _hc : continuation? r with
          | some r' => readMulti mark r'
          | none =>
            match _he : escape? r with
            | some (e, r') => (readMulti mark r').map (push e)
            | none => none
        else if isPlain c then (readMulti mark r).map (push c)
        else none
termination_by s.length
decreasing_by
  · simp
  · exact length_newline?_lt _hn
  · have := length_continuation?_lt _hc
    simp only [List.length_cons]
    omega
  · have := length_escape?_lt _he
    simp only [List.length_cons]
    omega
  · simp

def dropNewline (s : Text) : Text :=
  (newline? s).getD s

def readQuoted : Text → Option (Text × Text)
  | '"' :: '"' :: '"' :: r => readMulti '"' (dropNewline r)
  | '\'' :: '\'' :: '\'' :: r => readMulti '\'' (dropNewline r)
  | '"' :: r => readBasic r
  | '\'' :: r => readLiteral r
  | _ => none

/-! ## 2. Writing -/

/-- A character that only an escape can write: any control character but tab and line feed. -/
def needsCode (c : Char) : Bool :=
  c != '\n' && !isPlain c

def longestRun (x : Char) : Text → Nat
  | [] => 0
  | c :: r => max ((c :: r).takeWhile (· == x)).length (longestRun x r)

inductive Style where
  | basic
  | literal
  | multi
  | multiLiteral
  deriving DecidableEq, Repr

def styleOf (s : Text) : Style :=
  let coded := s.any needsCode
  let escaped := coded || s.contains '\\'
  let broken := s.contains '\n'
  if !escaped && !broken && !s.contains '"' then .basic
  else if !coded && !broken && !s.contains '\'' then .literal
  else if !escaped && longestRun '"' s ≤ 2 then .multi
  else if !coded && longestRun '\'' s ≤ 2 then .multiLiteral
  else if broken then .multi
  else .basic

def writeChar (c : Char) : Text :=
  match c with
  | '\\' => ['\\', '\\']
  | '\x08' => ['\\', 'b']
  | '\t' => ['\\', 't']
  | '\x0c' => ['\\', 'f']
  | '\r' => ['\\', 'r']
  | c =>
    if needsCode c then
      ['\\', 'u', '0', '0', Text.upperHex (c.toNat / 16), Text.upperHex (c.toNat % 16)]
    else [c]

/-- A text between double quotes. A mark gets a backslash where the run before it is as long as it
may be; `run` counts the marks just written. -/
def writeEscaped (multi : Bool) (run : Nat) : Text → Text
  | [] => []
  | c :: r =>
    if c = '"' then
      if run < (if multi then 2 else 0) then '"' :: writeEscaped multi (run + 1) r
      else '\\' :: '"' :: writeEscaped multi 0 r
    else if c = '\n' then
      (if multi then ['\n'] else ['\\', 'n']) ++ writeEscaped multi 0 r
    else writeChar c ++ writeEscaped multi 0 r

/-- Three marks around a written text; a line break behind the opening ones if the text has any. -/
def writeMulti (mark : Char) (s written : Text) : Text :=
  [mark, mark, mark] ++ (if s.contains '\n' then ['\n'] else []) ++ written ++ [mark, mark, mark]

def writeQuoted (s : Text) : Text :=
  match styleOf s with
  | .basic => '"' :: writeEscaped false 0 s ++ ['"']
  | .literal => '\'' :: s ++ ['\'']
  | .multi => writeMulti '"' s (writeEscaped true 0 s)
  | .multiLiteral => writeMulti '\'' s s

end SecretWeave.Toml
