import SecretWeave.Yaml.Token.Property

/-!
# Scalars of a document

Three ways to write a scalar: as a block, in quotes and plainly. Line breaks inside a scalar are
folded: one break is a space, of several breaks the first is dropped. The separators U+2028 and
U+2029 are never dropped.
-/

namespace SecretWeave.Yaml

structure Waiting where
  blanks : Text
  first : Text
  more : Text
  broken : Bool
  deriving DecidableEq, Repr

namespace Waiting

def none : Waiting := ⟨[], [], [], false⟩

/-- What stands for the breaks: of a line feed and no more a space is left, a line feed before
other breaks is dropped. -/
def folded (first more : Text) : Text :=
  match first with
  | '\n' :: _ => if more.isEmpty then [' '] else more
  | _ => first ++ more

def join (w : Waiting) : Text :=
  if w.broken then folded w.first w.more else w.blanks

def push (w : Waiting) (c : Char) : Waiting :=
  if isSpace c then
    if w.broken then w else { w with blanks := w.blanks ++ [c] }
  else if w.broken then { w with more := w.more ++ [c] }
  else ⟨[], [c], w.more, true⟩

end Waiting

/-! ## 1. Blocks -/

structure BlockHeader where
  keep : Option Bool
  indent : Nat
  deriving DecidableEq, Repr

def scanChomp (cs : Cells) : Option (Option Bool × Cells) :=
  if cs.head == '+' then some (some true, cs.skip 1)
  else if cs.head == '-' then some (some false, cs.skip 1)
  else none

def scanIndent (cs : Cells) : Except Nat (Nat × Cells) :=
  if cs.head.isDigit then
    if cs.head == '0' then stopAt cs else .ok (cs.head.toNat - 48, cs.skip 1)
  else .ok (0, cs)

def scanBlockHeader (cs : Cells) : Except Nat (BlockHeader × Cells) := do
  let (header, rest) ←
    match scanChomp cs with
    | some (keep, rest) => do
      let (indent, rest) ← scanIndent rest
      .ok (⟨keep, indent⟩, rest)
    | none => do
      let (indent, rest) ← scanIndent cs
      if indent == 0 then .ok (⟨none, 0⟩, rest)
      else
        match scanChomp rest with
        | some (keep, rest) => .ok (⟨keep, indent⟩, rest)
        | none => .ok (⟨none, indent⟩, rest)
  let rest := (rest.dropWhile isSpace).dropComment
  if isLineEnd rest.head then .ok (header, rest.dropBreak) else stopAt rest

/-- Steps over indentation and breaks, of which it collects the breaks. While `indent` is 0 it is
not known yet, and every space is indentation; `deepest` is the deepest line met. -/
def scanIndentation (indent : Nat) : Nat → Cells → Except Nat (Text × Nat × Cells)
  | deepest, [] => .ok ([], deepest, [])
  | deepest, c :: r =>
    let inside := indent == 0 || c.mark.column < indent
    -- a space beyond the indentation belongs to the text
    if inside && c.char == ' ' then scanIndentation indent deepest r
    else
      let deepest := max deepest c.mark.column
      if inside && c.char == '\t' then .error c.mark.line
      else if isBreak c.char then do
        let (breaks, deepest, rest) ← scanIndentation indent deepest r
        .ok (c.char :: breaks, deepest, rest)
      else .ok ([], deepest, c :: r)

def scanBlockLines (literal : Bool) (indent : Nat) :
    Nat → (first more : Text) → (afterBlank : Bool) → Cells →
      Except Nat (Text × Text × Text × Cells)
  | 0, first, more, _, cs => .ok ([], first, more, cs)
  | fuel + 1, first, more, afterBlank, cs =>
    if cs.column == indent && !cs.atEnd then do
      let blank := isSpace cs.head
      -- lines that start with a blank are not folded, neither here nor behind them
      let before :=
        if !literal && first.head? == some '\n' && !afterBlank && !blank then
          if more.isEmpty then [' '] else more
        else first ++ more
      let (line, rest) := cs.takeWhile fun c => !isLineEnd c
      let ending := if isBreak rest.head then [rest.head] else []
      let (breaks, _, rest) ← scanIndentation indent 0 rest.dropBreak
      let (lines, first, more, rest) ← scanBlockLines literal indent fuel ending breaks blank rest
      .ok (before ++ line ++ lines, first, more, rest)
    else .ok ([], first, more, cs)

/-- Reads a block scalar inside a block of the given indentation, which is -1 at the top. -/
def scanBlockScalar (literal : Bool) (parent : Int) (cs : Cells) : Except Nat (Text × Cells) := do
  let (header, rest) ← scanBlockHeader (cs.skip 1)
  let given := if header.indent == 0 then 0 else ((max parent 0) + header.indent).toNat
  let (breaks, deepest, rest) ← scanIndentation given 0 rest
  let indent := if given == 0 then max (max deepest (parent + 1).toNat) 1 else given
  let (text, first, more, rest) ← scanBlockLines literal indent rest.length [] breaks false rest
  match header.keep with
  | some true => .ok (text ++ first ++ more, rest)
  | some false => .ok (text, rest)
  | none => .ok (text ++ first, rest)

/-! ## 2. Quotes -/

def shortEscapes : List (Char × Char) :=
  [('0', '\x00'), ('a', '\x07'), ('b', '\x08'), ('t', '\t'), ('\t', '\t'), ('n', '\n'),
    ('v', '\x0b'), ('f', '\x0c'), ('r', '\r'), ('e', '\x1b'), (' ', ' '), ('"', '"'), ('/', '/'),
    ('\\', '\\'), ('N', '\u0085'), ('_', '\u00a0'), ('L', '\u2028'), ('P', '\u2029')]

def longEscapes : List (Char × Nat) :=
  [('x', 2), ('u', 4), ('U', 8)]

def scanEscape (cs : Cells) : Except Nat (Char × Cells) :=
  match shortEscapes.lookup (cs.peek 1) with
  | some c => .ok (c, cs.skip 2)
  | none =>
    match longEscapes.lookup (cs.peek 1) with
    | none => stopAt cs
    | some size =>
      let digits := (List.take size (cs.skip 2)).map Cell.char
      if digits.length == size then
        match (Text.readDigits? 16 digits).bind Text.char? with
        | some c => .ok (c, cs.skip (2 + size))
        | none => stopAt cs
      else stopAt cs

def scanQuotedText (single : Bool) : Nat → Waiting → Cells → Except Nat (Text × Cells)
  | 0, _, cs => stopAt cs
  | fuel + 1, w, cs =>
    let quote := if single then '\'' else '"'
    let c := cs.head
    -- a mark of a document at the start of a line ends even what stands in quotes
    if cs.atDocumentMark || cs.atEnd then stopAt cs
    else if isSpace c || isBreak c then scanQuotedText single fuel (w.push c) (cs.skip 1)
    else if c == quote && !(single && cs.peek 1 == quote) then .ok (w.join, cs.skip 1)
    else if !single && c == '\\' && isBreak (cs.peek 1) then do
      let (text, rest) ← scanQuotedText single fuel ⟨[], [], [], true⟩ (cs.skip 2)
      .ok (w.join ++ text, rest)
    else do
      let (next, rest) ←
        if c == quote then .ok (quote, cs.skip 2)
        else if !single && c == '\\' then scanEscape cs
        else .ok (c, cs.skip 1)
      let (text, rest) ← scanQuotedText single fuel .none rest
      .ok (w.join ++ next :: text, rest)

def scanQuoted (single : Bool) (cs : Cells) : Except Nat (Text × Cells) :=
  scanQuotedText single cs.length .none (cs.skip 1)

/-! ## 3. Plain scalars -/

def isFlowIndicator (c : Char) : Bool :=
  [',', '[', ']', '\x7b', '\x7d'].contains c

/-- Reads a plain scalar. `indent` is the least column of its further lines outside flow
collections. The answer says whether a break was met behind its last character. -/
def scanPlainText (inFlow : Bool) (indent : Int) :
    Nat → Waiting → Cells → Except Nat (Text × Bool × Cells)
  | 0, w, cs => .ok ([], w.broken, cs)
  | fuel + 1, w, cs =>
    let c := cs.head
    let outdented := w.broken && !inFlow && (cs.column : Int) < indent
    -- a tab never serves as indentation
    if isSpace c then
      if w.broken && (cs.column : Int) < indent && c == '\t' then .error cs.line
      else scanPlainText inFlow indent fuel (w.push c) (cs.skip 1)
    else if isBreak c then scanPlainText inFlow indent fuel (w.push c) (cs.skip 1)
    else if outdented || cs.atDocumentMark || c == endChar then .ok ([], w.broken, cs)
    -- only behind a blank or a break does a number sign start a comment
    else if c == '#' && w != .none then .ok ([], w.broken, cs)
    else if inFlow && c == ':' && (isFlowIndicator (cs.peek 1) || cs.peek 1 == '?') then
      .error cs.line
    else if (c == ':' && isGap (cs.peek 1)) || (inFlow && isFlowIndicator c) then
      .ok ([], w.broken, cs)
    else do
      let (text, broken, rest) ← scanPlainText inFlow indent fuel .none (cs.skip 1)
      .ok (w.join ++ c :: text, broken, rest)

def scanPlain (inFlow : Bool) (parent : Int) (cs : Cells) : Except Nat (Text × Bool × Cells) :=
  scanPlainText inFlow (parent + 1) cs.length .none cs

end SecretWeave.Yaml
