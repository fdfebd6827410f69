import SecretWeave.Toml.Quoted
import SecretWeave.Toml.Word

/-!
# TOML documents

A document is a sequence of lines: headers, which open tables, and keys with values for the table
opened last. Keys have parts with dots between them. Values in brackets and braces nest less than
80 deep, and keys have fewer than 80 parts.

Main fact: a document without lines is the empty table (`parse_nil`).
-/

namespace SecretWeave.Toml

def maxDepth : Nat := 80

/-! ## 1. Keys -/

def isBare (c : Char) : Bool :=
  c.isAlphanum || c == '_' || c == '-'

def readPart : Text → Option (Text × Text)
  | '"' :: r => readBasic r
  | '\'' :: r => readLiteral r
  | s =>
    if (s.takeWhile isBare).isEmpty then none
    else some (s.takeWhile isBare, s.dropWhile isBare)

def readKey : Nat → Text → Option (List Text × Text)
  | 0, _ => none
  | n + 1, s =>
    match readPart (skipBlanks s) with
    | none => none
    | some (k, r) =>
      match skipBlanks r with
      | '.' :: r => (readKey n r).map fun p => (k :: p.1, p.2)
      | r => some ([k], r)

/-! ## 2. Values -/

mutual

/-- The value at the start of a text and what follows. The first number bounds the steps, the
second the depth. -/
def readValue : Nat → Nat → Text → Option (Value × Text)
  | 0, _, _ => none
  | n + 1, depth, s =>
    match s with
    | '[' :: r =>
      match depth with
      | 0 => none
      | d + 1 => (readItems n d r).map fun p => (.array p.1, p.2)
    | '\x7b' :: r =>
      match depth with
      | 0 => none
      | d + 1 =>
        match skipBlanks r with
        | '\x7d' :: r => some (.table .braces [], r)
        | r => (readPairs n d [] r).map fun p => (.table .braces p.1, p.2)
    | '"' :: _ => (readQuoted s).map fun p => (.string p.1, p.2)
    | '\'' :: _ => (readQuoted s).map fun p => (.string p.1, p.2)
    | _ => Word.read s

def readItems : Nat → Nat → Text → Option (List Value × Text)
  | 0, _, _ => none
  | n + 1, depth, s =>
    match skipFiller s with
    | ']' :: r => some ([], r)
    | r =>
      match readValue n depth r with
      | none => none
      | some (v, r) =>
        match skipFiller r with
        | ',' :: r => (readItems n depth r).map fun p => (v :: p.1, p.2)
        | ']' :: r => some ([v], r)
        | _ => none

def readPairs : Nat → Nat → Entries → Text → Option (Entries × Text)
  | 0, _, _, _ => none
  | n + 1, depth, es, s =>
    match readKey (maxDepth - 1) s with
    | some (path, '=' :: r) =>
      match readValue n depth (skipBlanks r) with
      | none => none
      | some (v, r) =>
        match Table.assign? path v (.braces, es) with
        | none => none
        | some es =>
          match skipBlanks r with
          | ',' :: r => readPairs n depth es r
          | '\x7d' :: r => some (es, r)
          | _ => none
    | _ => none

end

/-! ## 3. Lines -/

/-- The path of a header and what follows its line, from behind the opening brackets. -/
def readHeader (close : Text) (s : Text) : Option (List Text × Text) :=
  match readKey (maxDepth - 1) s with
  | none => none
  | some (path, r) => (Text.after? close r).bind fun r => (lineEnd? r).map (path, ·)

def readEntry (s : Text) : Option (List Text × Value × Text) :=
  match readKey (maxDepth - 1) s with
  | some (path, '=' :: r) =>
    match readValue (s.length + 1) (maxDepth - 1) (skipBlanks r) with
    | none => none
    | some (v, r) => (lineEnd? r).map (path, v, ·)
  | _ => none

/-- The table that the lines make, which bounds their number by `n`; `header` is the path of the
table opened last, and `es` holds what the lines before have made. -/
def readLines : Nat → List Text → Entries → Text → Option Entries
  | 0, _, _, _ => none
  | n + 1, header, es, s =>
    match skipBlanks s with
    | [] => some es
    -- two brackets are tried before one
    | '[' :: '[' :: r =>
      match readHeader [']', ']'] r with
      | none => none
      | some (path, r) =>
        match Table.openNext? path (.header, es) with
        | none => none
        | some es => readLines n path es r
    | '[' :: r =>
      match readHeader [']'] r with
      | none => none
      | some (path, r) =>
        match Table.open? path (.header, es) with
        | none => none
        | some es => readLines n path es r
    | r =>
      -- a line without key and header holds at most a comment
      match lineEnd? r with
      | some r => readLines n header es r
      | none =>
        match readEntry r with
        | none => none
        | some (path, v, r) =>
          match Table.change? .implied (Table.assign? path v) header (.header, es) with
          | none => none
          | some es => readLines n header es r

def parse (s : Text) : Option Entries :=
  let body := match s with
    | '\uFEFF' :: r => r
    | s => s
  readLines (body.length + 1) [] [] body

end SecretWeave.Toml
