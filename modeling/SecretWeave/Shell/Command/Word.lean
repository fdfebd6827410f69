import SecretWeave.Shell.Command
import SecretWeave.Text.Name

/-!
# Reading words

A word is read character by character; what a character means depends on the place where it stands.
A backslash before a line feed joins two lines, except between single quotes. Commands inside a word
are read by readers that are given.
-/

namespace SecretWeave.Shell

structure Inner where
  closed : Text → Option (Command × Text)
  whole : Text → Option Command

abbrev Read := Option (List Part × Text)

/-! ## 1. Places -/

inductive Place where
  | bare
  | sign
  | quotedSign
  | double (braced : Bool)
  | brace
  | quotedBrace
  | body
  | sum (depth : Nat)
  deriving DecidableEq

namespace Place

def isQuoted : Place → Bool
  | bare | sign | brace => false
  | double _ | quotedSign | quotedBrace | body | sum _ => true

def mayEnd : Place → Bool
  | bare | sign | body => true
  | double _ | quotedSign | brace | quotedBrace | sum _ => false

def breaks : List Char := [' ', '\t', '\n', '<', '>', ';', '&', '|', '(', ')']

def endsAt (c : Char) : Place → Bool
  | bare | sign => breaks.contains c
  | double _ | quotedSign => c = '"'
  | brace | quotedBrace => c = '}'
  | body | sum _ => false

def behind (c : Char) (r : Text) : Place → Text
  | bare | sign => c :: r
  | _ => r

def escapes (c : Char) : Place → Bool
  | double braced => ['\\', '`', '$', '"'].contains c || (braced && c = '}')
  | quotedBrace => ['\\', '`', '$', '"', '}'].contains c
  | body => ['\\', '`', '$'].contains c
  | quotedSign | sum _ => ['\\', '`', '$', '"'].contains c
  | _ => true

def inBraces : Place → Place
  | bare | sign | brace => brace
  | _ => quotedBrace

def opensQuotes : Place → Bool
  | bare | sign | brace | quotedBrace => true
  | _ => false

def inQuotes : Place → Place
  | bare => double false
  | sign => quotedSign
  | _ => double true

end Place

/-! ## 2. Pieces of text -/

def joined : Text → Text
  | '\\' :: '\n' :: r => joined r
  | r => r

def nameOf : Text → Text × Text
  | '\\' :: '\n' :: r => nameOf r
  | c :: r =>
    if Text.continuesName c then (c :: (nameOf r).1, (nameOf r).2) else ([], c :: r)
  | [] => ([], [])

def digitsOf : Text → Text × Text
  | '\\' :: '\n' :: r => digitsOf r
  | c :: r => if c.isDigit then (c :: (digitsOf r).1, (digitsOf r).2) else ([], c :: r)
  | [] => ([], [])

def put (quoted : Bool) (t : Text) : List Part → List Part
  | .text q u :: ps =>
    if q = quoted then .text q (t ++ u) :: ps else .text quoted t :: .text q u :: ps
  | ps => .text quoted t :: ps

def before (front : List Part → List Part) : Read → Read :=
  Option.map fun p => (front p.1, p.2)

def specialParameters : List Char := ['!', '#', '$', '*', '-', '?', '@']

def isSpecial (c : Char) : Bool :=
  c.isDigit || specialParameters.contains c

/-- The text of a command between backquotes, and what follows it. A backslash protects itself,
dollar signs and backquotes, and in quotes also double quotes. -/
def backquoted (quoted : Bool) : Text → Option (Text × Text)
  | [] => none
  | '`' :: r => some ([], r)
  | '\\' :: '\n' :: r => backquoted quoted r
  | '\\' :: c :: r =>
    let kept := if ['\\', '`', '$'].contains c || (quoted && c = '"') then [c] else ['\\', c]
    (backquoted quoted r).map fun p => (kept ++ p.1, p.2)
  | c :: r => (backquoted quoted r).map fun p => (c :: p.1, p.2)

/-! ## 3. Parameters -/

def useOf (sign : Char) (empty : Bool) (word : Read) : Option (Use × Text) :=
  match word with
  | none => none
  | some (w, r) =>
    match sign with
    | '-' => some (.orElse empty w, r)
    | '=' => some (.orStore empty w, r)
    | '?' => some (.orEnd empty w, r)
    | '+' => some (.instead empty w, r)
    | _ => some (.malformed, r)

def readUse (again : Place → Text → Read) (place : Place) (input : Text) : Option (Use × Text) :=
  match joined input with
  | '}' :: r => some (.value, r)
  | ':' :: r =>
    match joined r with
    | c :: r => useOf c true (again place.inBraces r)
    | [] => none
  | '%' :: r =>
    match joined r with
    | '%' :: r => (again .brace r).map fun p => (.cutEnd true p.1, p.2)
    | r => (again .brace r).map fun p => (.cutEnd false p.1, p.2)
  | '#' :: r =>
    match joined r with
    | '#' :: r => (again .brace r).map fun p => (.cutStart true p.1, p.2)
    | r => (again .brace r).map fun p => (.cutStart false p.1, p.2)
  | c :: r => useOf c false (again place.inBraces r)
  | [] => none

def readLength (again : Place → Text → Read) (place : Place) (input : Text) :
    Option (Use × Text) :=
  match joined input with
  | '}' :: r => some (.length, r)
  | r => (again place.inBraces r).map fun p => (.malformed, p.2)

def readBraced (again : Place → Text → Read) (place : Place) (input : Text) :
    Option (Part × Text) :=
  let part := fun (name : Text) (p : Use × Text) =>
    (Part.parameter place.isQuoted name p.1, p.2)
  let named := fun (use : Text → Option (Use × Text)) (p : Text × Text) =>
    (use p.2).map (part p.1)
  let plain := readUse again place
  let length := readLength again place
  match joined input with
  | [] => none
  | '#' :: r =>
    match joined r with
    | [] => none
    | c :: r' =>
      if c = '_' || c.isAlpha then named length (nameOf (c :: r'))
      else if c.isDigit then named length (digitsOf (c :: r'))
      else if c ≠ '}' && (joined r').head? = some '}' then
        if isSpecial c then (length r').map (part [c])
        else some (.parameter place.isQuoted [] .malformed, (joined r').drop 1)
      else (plain (c :: r')).map (part ['#'])
  | c :: r =>
    if Text.startsName c then named plain (nameOf (c :: r))
    else if c.isDigit then named plain (digitsOf (c :: r))
    else if isSpecial c then (plain r).map (part [c])
    else (again place.inBraces (if c = '}' then c :: r else r)).map
      fun p => (.parameter place.isQuoted [] .malformed, p.2)

def readDollar (inner : Inner) (again : Place → Text → Read) (place : Place) (input : Text) :
    Option (Part × Text) :=
  let quoted := place.isQuoted
  match joined input with
  | '(' :: r =>
    match joined r with
    | '(' :: r => (again (.sum 0) r).map fun p => (.arithmetic quoted p.1, p.2)
    | _ => (inner.closed r).map fun p => (.output quoted p.1, p.2)
  | '{' :: r => readBraced again place r
  | c :: r =>
    if Text.startsName c then
      some (.parameter quoted (nameOf (c :: r)).1 .value, (nameOf (c :: r)).2)
    else if isSpecial c then some (.parameter quoted [c] .value, r)
    else some (.text quoted ['$'], c :: r)
  | [] => some (.text quoted ['$'], [])

/-! ## 4. Words -/

/-- What double quotes hold: the list of all parameters stays free of quotes, so that it is no word
if there are none. -/
def doubleQuoted : List Part → List Part
  | [.parameter true ['@'] .value] => [.parameter true ['@'] .value]
  | ps => .quotes :: ps

def readStep (inner : Inner) (again : Place → Text → Read) (place : Place) (input : Text) :
    Read :=
  let quoted := place.isQuoted
  match joined input with
  | [] => if place.mayEnd then some ([], []) else none
  | c :: r =>
    if place.endsAt c then some ([], place.behind c r)
    else if c = '\\' then
      match r with
      | [] => before (put true ['\\']) (again place [])
      | e :: r =>
        before (put true (if place.escapes e then [e] else ['\\', e])) (again place r)
    else if (c = '$' || c = '`') && place ≠ .sign && place ≠ .quotedSign then
      if c = '$' then
        match readDollar inner again place r with
        | some (.text q t, r) => before (put q t) (again place r)
        | some (p, r) => before (p :: ·) (again place r)
        | none => none
      else
        match backquoted quoted r with
        | some (script, r) =>
          match inner.whole script with
          | some command => before (.output quoted command :: ·) (again place r)
          | none => none
        | none => none
    else if c = '\'' && !quoted then
      match Text.cut? '\'' r with
      | some (t, r) => before (fun ps => .quotes :: put true t ps) (again place r)
      | none => none
    else if c = '"' && place.opensQuotes then
      match again place.inQuotes r with
      | some (ps, r) => before (doubleQuoted ps ++ ·) (again place r)
      | none => none
    else
      match place with
      | .sum depth =>
        if c = '(' then before (put true [c]) (again (.sum (depth + 1)) r)
        else if c = ')' then
          match depth with
          | depth + 1 => before (put true [c]) (again (.sum depth) r)
          | 0 =>
            match joined r with
            | ')' :: r => some ([], r)
            | r => before (put true [c]) (again place r)
        else before (put true [c]) (again place r)
      | _ => before (put quoted [c]) (again place r)

def readParts (inner : Inner) : Nat → Place → Text → Read
  | 0, _, _ => none
  | n + 1, place, input => readStep inner (readParts inner n) place input

def readAt (inner : Inner) (place : Place) (input : Text) : Read :=
  readParts inner (input.length + 1) place input

def plainText? : Word → Option Text
  | [.text false t] => some t
  | _ => none

end SecretWeave.Shell
