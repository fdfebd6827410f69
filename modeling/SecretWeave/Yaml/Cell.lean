import SecretWeave.Text.Basic

/-!
# Laying out a document

Before a document is read, its characters are given their places: how many octets stand before
them, on which line they are and in which column. A break of two characters becomes one cell, and
every kind of break that ends a line is written as a line feed, except for the line and paragraph
separators, which keep their own form. One cell that holds a NUL marks the end.
-/

namespace SecretWeave.Yaml

structure Mark where
  index : Nat
  line : Nat
  column : Nat
  deriving DecidableEq, Repr, Inhabited

structure Cell where
  char : Char
  mark : Mark
  deriving DecidableEq, Repr, Inhabited

abbrev Cells := List Cell

/-! ## 1. Character classes -/

def endChar : Char := '\x00'

def orderMark : Char := '\uFEFF'

def isSpace (c : Char) : Bool :=
  c == ' ' || c == '\t'

def isBreak (c : Char) : Bool :=
  c == '\n' || c == '\r' || c == '\u0085' || c == '\u2028' || c == '\u2029'

def isGap (c : Char) : Bool :=
  isSpace c || isBreak c || c == endChar

def isLineEnd (c : Char) : Bool :=
  isBreak c || c == endChar

def isWordChar (c : Char) : Bool :=
  c.isAlphanum || c == '_' || c == '-'

def allowedRanges : List (Nat × Nat) :=
  [(0x09, 0x0A), (0x0D, 0x0D), (0x20, 0x7E), (0x85, 0x85), (0xA0, 0xD7FF), (0xE000, 0xFFFD),
    (0x10000, 0x10FFFF)]

def isAllowed (c : Char) : Bool :=
  Text.inRanges allowedRanges c.toNat

/-! ## 2. Places -/

def asBreak (c : Char) : Char :=
  if c == '\r' || c == '\u0085' then '\n' else c

def layOut (m : Mark) : Text → Cells
  | [] => [⟨endChar, m⟩]
  | '\r' :: '\n' :: r => ⟨'\n', m⟩ :: layOut ⟨m.index + 2, m.line + 1, 0⟩ r
  | c :: r =>
    let index := m.index + c.utf8Size
    if isBreak c then ⟨asBreak c, m⟩ :: layOut ⟨index, m.line + 1, 0⟩ r
    else ⟨c, m⟩ :: layOut ⟨index, m.line, m.column + 1⟩ r

def Mark.start : Mark := ⟨0, 1, 0⟩

/-- The cells of a document, or the line of the complaint about a character it may not hold. -/
def cellsOf? (s : Text) : Except Nat Cells :=
  if s.all isAllowed then .ok (layOut .start s) else .error 1

namespace Cells

def head (cs : Cells) : Char :=
  match cs with
  | c :: _ => c.char
  | [] => endChar

def skip (cs : Cells) (n : Nat) : Cells :=
  List.drop n cs

def peek (cs : Cells) (n : Nat) : Char :=
  head (cs.skip n)

def mark (cs : Cells) : Mark :=
  match cs with
  | c :: _ => c.mark
  | [] => default

def line (cs : Cells) : Nat :=
  cs.mark.line

def column (cs : Cells) : Nat :=
  cs.mark.column

def atEnd (cs : Cells) : Bool :=
  cs.head == endChar

/-- The characters from the front on that satisfy a condition, and the cells behind them. -/
def takeWhile (p : Char → Bool) (cs : Cells) : Text × Cells :=
  ((List.takeWhile (fun c => p c.char) cs).map Cell.char, List.dropWhile (fun c => p c.char) cs)

def dropWhile (p : Char → Bool) (cs : Cells) : Cells :=
  List.dropWhile (fun c => p c.char) cs

def dropComment (cs : Cells) : Cells :=
  if cs.head == '#' then cs.dropWhile fun c => !isLineEnd c else cs

def dropBreak (cs : Cells) : Cells :=
  if isBreak cs.head then cs.skip 1 else cs

/-- Whether three equal characters stand at the start of a line, with a gap behind them. -/
def atIndicator (mark : Char) (cs : Cells) : Bool :=
  cs.column == 0 && cs.head == mark && cs.peek 1 == mark && cs.peek 2 == mark && isGap (cs.peek 3)

def atDocumentMark (cs : Cells) : Bool :=
  cs.atIndicator '-' || cs.atIndicator '.'

end Cells

end SecretWeave.Yaml
