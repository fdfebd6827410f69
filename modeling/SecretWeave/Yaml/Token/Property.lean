import SecretWeave.Text.Digits
import SecretWeave.Text.Utf8
import SecretWeave.Yaml.Token.Basic

/-!
# Anchors, tags and directives

The tokens that stand in front of a node or a document and say something about it: `&name`,
`*name`, `!tag`, `%YAML` and `%TAG`.
-/

namespace SecretWeave.Yaml

/-! ## 1. Anchors -/

/-- Reads the name behind `&` or `*`. It is not empty, and a gap or an indicator follows it. -/
def scanAnchor (cs : Cells) : Except Nat (Text × Cells) :=
  let (name, rest) := (cs.skip 1).takeWhile isWordChar
  let follows :=
    isGap rest.head || ['?', ':', ',', ']', '\x7d', '%', '@', '\x60'].contains rest.head
  if name.isEmpty || !follows then stopAt rest else .ok (name, rest)

/-! ## 2. Tags -/

def percentOctet? (cs : Cells) : Option Nat :=
  if cs.head == '%' then
    match Text.hexDigit? (cs.peek 1), Text.hexDigit? (cs.peek 2) with
    | some a, some b => some (a * 16 + b)
    | _, _ => none
  else none

def octetWidth? (octet : Nat) : Option Nat :=
  if octet < 0x80 then some 1
  else if octet / 0x20 == 6 then some 2
  else if octet / 0x10 == 14 then some 3
  else if octet / 0x08 == 30 then some 4
  else none

def scanContinuation : Nat → Cells → Except Nat (Bytes × Cells)
  | 0, cs => .ok ([], cs)
  | n + 1, cs =>
    match percentOctet? cs with
    | none => stopAt cs
    | some octet =>
      if octet / 0x40 == 2 then do
        let (octets, rest) ← scanContinuation n (cs.skip 3)
        .ok (UInt8.ofNat octet :: octets, rest)
      else stopAt cs

def scanEscapedChar (cs : Cells) : Except Nat (Bytes × Cells) :=
  match percentOctet? cs with
  | none => stopAt cs
  | some octet =>
    match octetWidth? octet with
    | none => stopAt cs
    | some width => do
      let (octets, rest) ← scanContinuation (width - 1) (cs.skip 3)
      .ok (UInt8.ofNat octet :: octets, rest)

/-- A character of a tag's suffix; inside `!<…>` and in directives also a flow indicator. -/
def isTagChar (verbatim : Bool) (c : Char) : Bool :=
  isWordChar c ||
    [';', '/', '?', ':', '@', '&', '=', '+', '$', '.', '%', '!', '~', '*', '\'', '(', ')'].contains
      c ||
    (verbatim && [',', '[', ']'].contains c)

def scanTagChars (verbatim : Bool) : Nat → Cells → Except Nat (Bytes × Cells)
  | 0, cs => .ok ([], cs)
  | fuel + 1, cs =>
    if isTagChar verbatim cs.head then
      if cs.head == '%' then do
        let (octets, rest) ← scanEscapedChar cs
        let (more, rest) ← scanTagChars verbatim fuel rest
        .ok (octets ++ more, rest)
      else do
        let (more, rest) ← scanTagChars verbatim fuel (cs.skip 1)
        .ok (Text.utf8 [cs.head] ++ more, rest)
    else .ok ([], cs)

def scanSuffix (verbatim : Bool) (before : Text) (cs : Cells) : Except Nat (Bytes × Cells) := do
  let (octets, rest) ← scanTagChars verbatim cs.length cs
  if before.isEmpty && rest.length == cs.length then stopAt rest
  else .ok (Text.utf8 (before.drop 1) ++ octets, rest)

/-- Reads a handle: `!`, `!!` or `!word!`. Outside directives the last mark may be missing. -/
def scanHandle (directive : Bool) (cs : Cells) : Except Nat (Text × Cells) :=
  if cs.head == '!' then
    let (word, rest) := (cs.skip 1).takeWhile isWordChar
    if rest.head == '!' then .ok ('!' :: word ++ ['!'], rest.skip 1)
    else if directive && !word.isEmpty then stopAt rest
    else .ok ('!' :: word, rest)
  else stopAt cs

/-- Reads a tag: verbatim, with a handle, or with the short handle `!`. A lone `!` is a tag of its
own without a handle. -/
def scanTagName (cs : Cells) : Except Nat (TagName × Cells) :=
  if cs.peek 1 == '<' then do
    let (suffix, rest) ← scanSuffix true [] (cs.skip 2)
    if rest.head == '>' then .ok (⟨[], suffix⟩, rest.skip 1) else stopAt rest
  else do
    let (handle, rest) ← scanHandle false cs
    if handle.length > 1 && handle.getLast? == some '!' then do
      let (suffix, rest) ← scanSuffix false [] rest
      .ok (⟨Text.utf8 handle, suffix⟩, rest)
    else do
      let (suffix, rest) ← scanSuffix false handle rest
      if suffix.isEmpty then .ok (⟨[], Text.utf8 ['!']⟩, rest)
      else .ok (⟨Text.utf8 ['!'], suffix⟩, rest)

def scanTag (inFlow : Bool) (cs : Cells) : Except Nat (TagName × Cells) := do
  let (name, rest) ← scanTagName cs
  if (inFlow && rest.head == ',') || isGap rest.head then
    .ok (⟨untilNul name.handle, untilNul name.suffix⟩, rest)
  else stopAt rest

/-! ## 3. Directives -/

def scanVersionNumber (cs : Cells) : Except Nat (Nat × Cells) :=
  let (digits, rest) := cs.takeWhile Char.isDigit
  if digits.isEmpty || digits.length > 9 then stopAt rest
  else .ok (digits.foldl (fun n d => n * 10 + (d.toNat - 48)) 0, rest)

def scanDirectiveBody (name : Text) (cs : Cells) : Except Nat (TokenKind × Cells) :=
  if name == "YAML".toList then do
    let (major, rest) ← scanVersionNumber (cs.dropWhile isSpace)
    if rest.head == '.' then do
      let (minor, rest) ← scanVersionNumber (rest.skip 1)
      .ok (.versionDirective major minor, rest)
    else stopAt rest
  else if name == "TAG".toList then do
    let (handle, rest) ← scanHandle true (cs.dropWhile isSpace)
    if isSpace rest.head then do
      let (start, rest) ← scanSuffix true [] (rest.dropWhile isSpace)
      if isGap rest.head then .ok (.tagDirective (Text.utf8 handle) (untilNul start), rest)
      else stopAt rest
    else stopAt rest
  else stopAt cs

def scanDirective (cs : Cells) : Except Nat (TokenKind × Cells) :=
  let (name, rest) := (cs.skip 1).takeWhile isWordChar
  if name.isEmpty || !isGap rest.head then stopAt rest
  else do
    let (kind, rest) ← scanDirectiveBody name rest
    let rest := (rest.dropWhile isSpace).dropComment
    if isLineEnd rest.head then .ok (kind, rest.dropBreak) else stopAt rest

end SecretWeave.Yaml
