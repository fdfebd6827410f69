import SecretWeave.Yaml.Token.Scalar

/-!
# From cells to tokens

Tokens come from the front of a document one after the other. Two things make the order of tokens
differ from the order of characters. Indentation opens and closes block collections without
a character of their own. And a key is recognised only by the colon behind it, so every token that
could start a key is held back until the colon has come or can no longer come; the key's token is
then put in front of it.

A complaint about the text ends the stream. Tokens that are held back at that moment are lost.
-/

namespace SecretWeave.Yaml

structure Candidate where
  number : Nat
  mark : Mark
  required : Bool
  deriving DecidableEq, Repr

structure Stream where
  cells : Cells
  settled : List Token
  count : Nat
  held : List Token
  indent : Int
  outer : List Int
  /-- The candidates of the open flow collections, the innermost first; the last is the candidate
  outside of all. -/
  candidates : List (Option Candidate)
  keyAllowed : Bool
  finished : Bool

namespace Stream

def depth (s : Stream) : Nat :=
  s.candidates.length - 1

def inFlow (s : Stream) : Bool :=
  s.depth != 0

def start (cells : Cells) : Stream where
  cells := cells
  settled := []
  count := 0
  held := [⟨.streamStart, 1⟩]
  indent := -1
  outer := []
  candidates := [none]
  keyAllowed := true
  finished := false

def push (s : Stream) (kind : TokenKind) (line : Nat) : Stream :=
  { s with held := s.held ++ [⟨kind, line⟩] }

def pushAt (s : Stream) (number : Nat) (kind : TokenKind) (line : Nat) : Stream :=
  let place := number - s.count
  { s with held := s.held.take place ++ ⟨kind, line⟩ :: s.held.drop place }

/-! ## 1. Candidates -/

def candidateReach : Nat := 1024

def isStale (here : Mark) (c : Candidate) : Bool :=
  c.mark.line < here.line || c.mark.index + candidateReach < here.index

def dropStale (s : Stream) : Except Nat Stream :=
  let here := s.cells.mark
  let stale := fun c : Option Candidate => c.any (isStale here)
  if s.candidates.any fun c => stale c && c.any Candidate.required then .error here.line
  else .ok { s with candidates := s.candidates.map fun c => if stale c then none else c }

def dropCandidate (s : Stream) : Except Nat Stream :=
  match s.candidates with
  | some c :: outer =>
    if c.required then .error s.cells.line else .ok { s with candidates := none :: outer }
  | _ => .ok s

def saveCandidate (s : Stream) : Except Nat Stream :=
  if s.keyAllowed then do
    let mark := s.cells.mark
    -- in a block, what starts in the block's own column can only be its next key
    let candidate : Candidate :=
      { number := s.count + s.held.length, mark := mark,
        required := !s.inFlow && s.indent == (mark.column : Int) }
    let s ← s.dropCandidate
    .ok { s with candidates := some candidate :: s.candidates.drop 1 }
  else .ok s

def settle (s : Stream) : Stream :=
  let first := s.candidates.foldl
    (fun n c => match c with | some c => min n (c.number - s.count) | none => n) s.held.length
  { s with
    settled := (s.held.take first).reverse ++ s.settled
    count := s.count + first
    held := s.held.drop first }

/-! ## 2. Indentation -/

/-- Opens a block collection when the column is deeper than the block; its token goes to the end
or in front of the token with a number. -/
def openBlock (s : Stream) (column : Nat) (number : Option Nat) (kind : TokenKind) (line : Nat) :
    Stream :=
  if s.inFlow || s.indent ≥ column then s
  else
    let s := { s with outer := s.indent :: s.outer, indent := column }
    match number with
    | some n => s.pushAt n kind line
    | none => s.push kind line

def closedBy (column : Int) : Int → List Int → Nat × Int × List Int
  | indent, [] => (0, indent, [])
  | indent, next :: outer =>
    if indent > column then
      let (n, indent, outer) := closedBy column next outer
      (n + 1, indent, outer)
    else (0, indent, next :: outer)

def closeBlocks (s : Stream) (column : Int) (line : Nat) : Stream :=
  if s.inFlow then s
  else
    let (n, indent, outer) := closedBy column s.indent s.outer
    { s with
      held := s.held ++ List.replicate n ⟨.blockEnd, line⟩
      indent := indent
      outer := outer }

/-! ## 3. Tokens -/

def indicator (s : Stream) (kind : TokenKind) (size : Nat) : Stream :=
  { s.push kind s.cells.line with cells := s.cells.skip size }

/-- Steps over blanks, comments and breaks. A tab is a blank only where no key can start, and an
order mark only at the start of a line. -/
def skipBlank (inFlow : Bool) : Nat → (keyAllowed : Bool) → Cells → Bool × Cells
  | 0, keyAllowed, cs => (keyAllowed, cs)
  | fuel + 1, keyAllowed, cs =>
    if cs.column == 0 && cs.head == orderMark then skipBlank inFlow fuel keyAllowed (cs.skip 1)
    else if cs.head == ' ' || ((inFlow || !keyAllowed) && cs.head == '\t') then
      skipBlank inFlow fuel keyAllowed (cs.skip 1)
    else if cs.head == '#' then skipBlank inFlow fuel keyAllowed cs.dropComment
    else if isBreak cs.head then skipBlank inFlow fuel (keyAllowed || !inFlow) (cs.skip 1)
    else (keyAllowed, cs)

def finish (s : Stream) : Except Nat Stream := do
  let here := s.cells.mark
  -- an unfinished line counts as finished
  let mark := if here.column == 0 then here else ⟨here.index, here.line + 1, 0⟩
  let s := { s with cells := [⟨endChar, mark⟩] }
  let s ← (s.closeBlocks (-1) mark.line).dropCandidate
  .ok { s.push .streamEnd mark.line with keyAllowed := false, finished := true }

def documentToken (s : Stream) (kind : Option TokenKind) : Except Nat Stream := do
  let s ← (s.closeBlocks (-1) s.cells.line).dropCandidate
  let s := { s with keyAllowed := false }
  match kind with
  | some kind => .ok (s.indicator kind 3)
  | none => do
    let line := s.cells.line
    let (kind, rest) ← scanDirective s.cells
    .ok { s.push kind line with cells := rest }

def flowStart (s : Stream) (kind : TokenKind) : Except Nat Stream := do
  let s ← s.saveCandidate
  .ok ({ s with candidates := none :: s.candidates, keyAllowed := true }.indicator kind 1)

def flowEnd (s : Stream) (kind : TokenKind) : Except Nat Stream := do
  let s ← s.dropCandidate
  let candidates := if s.inFlow then s.candidates.drop 1 else s.candidates
  .ok ({ s with candidates := candidates, keyAllowed := false }.indicator kind 1)

def flowEntry (s : Stream) : Except Nat Stream := do
  let s ← s.dropCandidate
  .ok ({ s with keyAllowed := true }.indicator .flowEntry 1)

/-- A dash, or a question mark before a key. Outside flow collections it may open a block. -/
def blockIndicator (s : Stream) (block kind : TokenKind) (keyAllowed : Bool) :
    Except Nat Stream := do
  if !s.inFlow && !s.keyAllowed then stopAt s.cells
  else
    let s ← (s.openBlock s.cells.column none block s.cells.line).dropCandidate
    .ok ({ s with keyAllowed := keyAllowed }.indicator kind 1)

def value (s : Stream) : Except Nat Stream :=
  match s.candidates with
  | some c :: outer =>
    -- the key's token goes in front of the candidate, and the block's in front of the key's
    let s := s.pushAt c.number .key c.mark.line
    let s := s.openBlock c.mark.column (some c.number) .blockMappingStart c.mark.line
    .ok ({ s with candidates := none :: outer, keyAllowed := false }.indicator .value 1)
  | _ =>
    if s.inFlow then .ok ({ s with keyAllowed := false }.indicator .value 1)
    else if s.keyAllowed then
      let s := s.openBlock s.cells.column none .blockMappingStart s.cells.line
      .ok ({ s with keyAllowed := true }.indicator .value 1)
    else stopAt s.cells

def node (s : Stream) (read : Cells → Except Nat (TokenKind × Bool × Cells)) :
    Except Nat Stream := do
  let s ← s.saveCandidate
  let line := s.cells.line
  let (kind, keyAllowed, rest) ← read s.cells
  .ok { s.push kind line with cells := rest, keyAllowed := keyAllowed }

def blockScalar (s : Stream) (literal : Bool) : Except Nat Stream := do
  let s ← s.dropCandidate
  let line := s.cells.line
  let (text, rest) ← scanBlockScalar literal s.indent s.cells
  .ok { s.push (.scalar text .quoted) line with cells := rest, keyAllowed := true }

/-- The characters that no plain scalar starts with, unless the next character makes it one. -/
def indicators : List Char :=
  ['-', '?', ':', ',', '[', ']', '\x7b', '\x7d', '#', '&', '*', '!', '|', '>', '\'', '"', '%', '@',
    '\x60']

def startsPlain (s : Stream) : Bool :=
  let c := s.cells.head
  let next := s.cells.peek 1
  !(isGap c || indicators.contains c) ||
    (c == '-' && !isSpace next) ||
    (!s.inFlow && (c == '?' || c == ':') && !isGap next)

def token (s : Stream) : Except Nat Stream :=
  let cs := s.cells
  let c := cs.head
  let gap := isGap (cs.peek 1)
  if cs.column == 0 && c == '%' then s.documentToken none
  else if cs.atIndicator '-' then s.documentToken (some .documentStart)
  else if cs.atIndicator '.' then s.documentToken (some .documentEnd)
  else if c == '[' then s.flowStart .flowSequenceStart
  else if c == '\x7b' then s.flowStart .flowMappingStart
  else if c == ']' then s.flowEnd .flowSequenceEnd
  else if c == '\x7d' then s.flowEnd .flowMappingEnd
  else if c == ',' then s.flowEntry
  else if c == '-' && gap then s.blockIndicator .blockSequenceStart .blockEntry true
  else if c == '?' && (s.inFlow || gap) then
    s.blockIndicator .blockMappingStart .key (!s.inFlow)
  else if c == ':' && (s.inFlow || gap) then s.value
  else if c == '*' then s.node fun cs => do
    let (name, rest) ← scanAnchor cs
    .ok (.alias name, false, rest)
  else if c == '&' then s.node fun cs => do
    let (name, rest) ← scanAnchor cs
    .ok (.anchor name, false, rest)
  else if c == '!' then s.node fun cs => do
    let (name, rest) ← scanTag s.inFlow cs
    .ok (.tag name, false, rest)
  else if c == '|' && !s.inFlow then s.blockScalar true
  else if c == '>' && !s.inFlow then s.blockScalar false
  else if c == '\'' || c == '"' then s.node fun cs => do
    let (text, rest) ← scanQuoted (c == '\'') cs
    .ok (.scalar text .quoted, false, rest)
  else if s.startsPlain then s.node fun cs => do
    let (text, broken, rest) ← scanPlain s.inFlow s.indent cs
    .ok (.scalar text .plain, broken, rest)
  else stopAt cs

def next (s : Stream) : Except Nat Stream := do
  let (keyAllowed, rest) := skipBlank s.inFlow (2 * s.cells.length) s.keyAllowed s.cells
  let s ← ({ s with cells := rest, keyAllowed := keyAllowed } : Stream).dropStale
  let s := s.closeBlocks s.cells.column s.cells.line
  if s.cells.atEnd then s.finish else s.token

def run : Nat → Stream → List Token × Option Nat
  | 0, s => (s.settled.reverse, none)
  | fuel + 1, s =>
    -- held tokens are never handed on once a complaint has come
    match if s.held.isEmpty then .ok s else s.dropStale with
    | .error line => (s.settled.reverse, some line)
    | .ok s =>
      let s := s.settle
      if s.finished then (s.settled.reverse, none)
      else
        match s.next with
        | .error line => (s.settled.reverse, some line)
        | .ok s => run fuel s

end Stream

def tokensOf (s : Text) : List Token × Option Nat :=
  match cellsOf? s with
  | .error line => ([], some line)
  | .ok cells => Stream.run (2 * cells.length + 2) (.start cells)

end SecretWeave.Yaml
