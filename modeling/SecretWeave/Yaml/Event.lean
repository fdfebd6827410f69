import SecretWeave.Yaml.Token.Stream

/-!
# Events

Events are the document's structure in the order of its text: where collections begin and end, and
the scalars and aliases between. They come from tokens by a machine with a stack. Its states say
what is expected next; a node pushes what is expected behind it.

Missing keys and values are empty scalars. A complaint about the structure ends the events; the
events before it stand.
-/

namespace SecretWeave.Yaml

structure Property where
  anchor : Option Text
  tag : Option Bytes
  deriving DecidableEq, Repr

def Property.none : Property := ⟨.none, .none⟩

inductive EventKind where
  | documentStart
  | documentEnd
  | streamEnd
  | alias (name : Text)
  | scalar (property : Property) (text : Text) (style : Style)
  | sequenceStart (property : Property)
  | sequenceEnd
  | mappingStart (property : Property)
  | mappingEnd
  deriving DecidableEq, Repr

structure Event where
  kind : EventKind
  line : Nat
  deriving DecidableEq, Repr

inductive Expect where
  | stream
  | document (first : Bool)
  | content
  | documentEnd
  | node (block : Bool)
  | blockEntry
  | flatEntry
  | blockKey
  | blockValue
  | flowEntry (first : Bool)
  | pairKey
  | pairValue
  | pairEnd
  | flowKey (first : Bool)
  | flowValue
  | flowNoValue
  | nothing
  deriving DecidableEq, Repr

structure Machine where
  tokens : List Token
  expect : Expect
  stack : List Expect
  handles : List (Bytes × Bytes)

/-- What a step answers: an event and the machine behind it, the line of a complaint, or that the
tokens are used up. -/
inductive Step where
  | event (e : Event) (m : Machine)
  | stop (line : Nat)
  | starved

namespace Machine

def emit (m : Machine) (kind : EventKind) (line : Nat) : Step :=
  .event ⟨kind, line⟩ m

def skip (m : Machine) : Machine :=
  { m with tokens := m.tokens.drop 1 }

def expecting (m : Machine) (e : Expect) : Machine :=
  { m with expect := e }

def pushing (m : Machine) (e : Expect) : Machine :=
  { m with stack := e :: m.stack }

def popping (m : Machine) : Machine :=
  match m.stack with
  | e :: rest => { m with expect := e, stack := rest }
  | [] => { m with expect := .nothing }

def look (m : Machine) (f : Token → Step) : Step :=
  match m.tokens with
  | t :: _ => f t
  | [] => .starved

def emptyScalar (m : Machine) (line : Nat) : Step :=
  m.emit (.scalar .none [] .plain) line

/-! ## 1. Directives -/

def defaultHandles : List (Bytes × Bytes) :=
  [(Text.utf8 "!".toList, Text.utf8 "!".toList),
    (Text.utf8 "!!".toList, Text.utf8 "tag:yaml.org,2002:".toList)]

/-- Uses up the directives of a document and learns what its handles stand for. There is at most
one version directive, for version 1.1 or 1.2, and one directive per handle. -/
def directives : (versionSeen : Bool) → List (Bytes × Bytes) → List Token →
    Except Nat (List (Bytes × Bytes) × List Token)
  | versionSeen, handles, t :: ts =>
    match t.kind with
    | .versionDirective major minor =>
      if versionSeen || major != 1 || (minor != 1 && minor != 2) then .error t.line
      else directives true handles ts
    | .tagDirective handle start =>
      if (handles.lookup handle).isSome then .error t.line
      else directives versionSeen (handles ++ [(handle, start)]) ts
    | _ => .ok (handles, t :: ts)
  | _, handles, [] => .ok (handles, [])

def withDirectives (m : Machine) (f : Machine → Step) : Step :=
  match directives false [] m.tokens with
  | .error line => .stop line
  | .ok (handles, tokens) =>
    f { m with tokens := tokens, handles := handles ++ defaultHandles }

/-! ## 2. Nodes -/

def resolveTag (m : Machine) (name : TagName) : Option Bytes :=
  if name.handle.isEmpty then some name.suffix
  else (m.handles.lookup name.handle).map (· ++ name.suffix)

/-- What stands in front of a node, in either order, each at most once: the tag, the anchor, and
the line of the tag. -/
def properties (tokens : List Token) : Option Text × Option (TagName × Nat) × List Token :=
  match tokens with
  | ⟨.anchor a, _⟩ :: ⟨.tag t, line⟩ :: rest => (some a, some (t, line), rest)
  | ⟨.tag t, line⟩ :: ⟨.anchor a, _⟩ :: rest => (some a, some (t, line), rest)
  | ⟨.anchor a, _⟩ :: rest => (some a, none, rest)
  | ⟨.tag t, line⟩ :: rest => (none, some (t, line), rest)
  | rest => (none, none, rest)

def nodeContent (block flat : Bool) (p : Property) (start : Nat) (m : Machine) : Step :=
  m.look fun t =>
    match t.kind with
    | .scalar text style => m.skip.popping.emit (.scalar p text style) start
    | .flowSequenceStart =>
      (m.skip.expecting (.flowEntry true)).emit (.sequenceStart p) start
    | .flowMappingStart => (m.skip.expecting (.flowKey true)).emit (.mappingStart p) start
    | kind =>
      -- the dash of a sequence that is not indented stays to be read as its first entry
      if flat && kind == .blockEntry then
        (m.expecting .flatEntry).emit (.sequenceStart p) start
      else if block && kind == .blockSequenceStart then
        (m.skip.expecting .blockEntry).emit (.sequenceStart p) start
      else if block && kind == .blockMappingStart then
        (m.skip.expecting .blockKey).emit (.mappingStart p) start
      -- an anchor or a tag alone stands in front of an empty scalar
      else if p.anchor.isSome || p.tag.isSome then
        m.popping.emit (.scalar p [] .plain) start
      else .stop t.line

/-- A node. `block` says whether block collections may stand here, `flat` whether a sequence may
that is not indented. -/
def node (m : Machine) (block flat : Bool) : Step :=
  m.look fun t =>
    match t.kind with
    | .alias name => m.skip.popping.emit (.alias name) t.line
    | _ =>
      let (anchor, tag, tokens) := properties m.tokens
      let m := { m with tokens := tokens }
      match tokens with
      | [] => .starved
      | _ =>
        match tag with
        | none => nodeContent block flat ⟨anchor, none⟩ t.line m
        | some (name, line) =>
          match m.resolveTag name with
          | none => .stop line
          | some tag => nodeContent block flat ⟨anchor, some tag⟩ t.line m

def nodeUnless (m : Machine) (missing : TokenKind → Bool) (block flat : Bool) (next : Expect)
    (emptyLine : Token → Nat) : Step :=
  m.look fun t =>
    if missing t.kind then (m.expecting next).emptyScalar (emptyLine t)
    else (m.pushing next).node block flat

/-! ## 3. Steps -/

def documentStep (m : Machine) (first : Bool) : Step :=
  let m := if first then m
    else { m with tokens := m.tokens.dropWhile fun t => t.kind == .documentEnd }
  m.look fun t =>
    match t.kind with
    | .streamEnd => (m.expecting .nothing).emit .streamEnd t.line
    | kind =>
      -- behind a first document every other one needs its dashes
      let explicit := match kind with
        | .versionDirective _ _ | .tagDirective _ _ | .documentStart => true
        | _ => !first
      m.withDirectives fun m =>
        if explicit then
          m.look fun t' =>
            if t'.kind == .documentStart then
              ((m.skip.pushing .documentEnd).expecting .content).emit .documentStart t.line
            else .stop t'.line
        else ((m.pushing .documentEnd).expecting (.node true)).emit .documentStart t.line

def step (m : Machine) : Step :=
  match m.expect with
  | .nothing => .starved
  | .stream =>
    match m.tokens with
    | _ :: rest => documentStep { m with tokens := rest } true
    | [] => .starved
  | .document first => m.documentStep first
  | .content => m.look fun t =>
    match t.kind with
    | .versionDirective _ _ | .tagDirective _ _ | .documentStart | .documentEnd | .streamEnd =>
      m.popping.emptyScalar t.line
    | _ => m.node true false
  | .documentEnd => m.look fun t =>
    let m := if t.kind == .documentEnd then m.skip else m
    ({ m with handles := [] }.expecting (.document false)).emit .documentEnd t.line
  | .node block => m.node block false
  | .blockEntry => m.look fun t =>
    match t.kind with
    | .blockEntry =>
      m.skip.nodeUnless (fun k => k == .blockEntry || k == .blockEnd) true false .blockEntry
        fun _ => t.line
    | .blockEnd => m.skip.popping.emit .sequenceEnd t.line
    | _ => .stop t.line
  | .flatEntry => m.look fun t =>
    match t.kind with
    | .blockEntry =>
      m.skip.nodeUnless
        (fun k => k == .blockEntry || k == .key || k == .value || k == .blockEnd) true false
        .flatEntry fun _ => t.line
    | _ => m.popping.emit .sequenceEnd t.line
  | .blockKey => m.look fun t =>
    match t.kind with
    | .key =>
      m.skip.nodeUnless (fun k => k == .key || k == .value || k == .blockEnd) true true .blockValue
        fun _ => t.line
    | .blockEnd => m.skip.popping.emit .mappingEnd t.line
    | _ => .stop t.line
  | .blockValue => m.look fun t =>
    match t.kind with
    | .value =>
      m.skip.nodeUnless (fun k => k == .key || k == .value || k == .blockEnd) true true .blockKey
        fun _ => t.line
    | _ => (m.expecting .blockKey).emptyScalar t.line
  | .flowEntry first => m.look fun t =>
    if t.kind == .flowSequenceEnd then m.skip.popping.emit .sequenceEnd t.line
    else if !first && t.kind != .flowEntry then .stop t.line
    else
      let m := if first then m else m.skip
      m.look fun t =>
        match t.kind with
        | .key => (m.skip.expecting .pairKey).emit (.mappingStart .none) t.line
        | .flowSequenceEnd => m.skip.popping.emit .sequenceEnd t.line
        | _ => (m.pushing (.flowEntry false)).node false false
  | .pairKey => m.look fun t =>
    match t.kind with
    | .value | .flowEntry | .flowSequenceEnd => (m.skip.expecting .pairValue).emptyScalar t.line
    | _ => (m.pushing .pairValue).node false false
  | .pairValue => m.look fun t =>
    match t.kind with
    | .value =>
      m.skip.nodeUnless (fun k => k == .flowEntry || k == .flowSequenceEnd) false false .pairEnd
        Token.line
    | _ => (m.expecting .pairEnd).emptyScalar t.line
  | .pairEnd => m.look fun t => (m.expecting (.flowEntry false)).emit .mappingEnd t.line
  | .flowKey first => m.look fun t =>
    if t.kind == .flowMappingEnd then m.skip.popping.emit .mappingEnd t.line
    else if !first && t.kind != .flowEntry then .stop t.line
    else
      let m := if first then m else m.skip
      m.look fun t =>
        match t.kind with
        | .key =>
          m.skip.nodeUnless (fun k => k == .value || k == .flowEntry || k == .flowMappingEnd)
            false false .flowValue Token.line
        | .flowMappingEnd => m.skip.popping.emit .mappingEnd t.line
        | _ => (m.pushing .flowNoValue).node false false
  | .flowValue => m.look fun t =>
    match t.kind with
    | .value =>
      m.skip.nodeUnless (fun k => k == .flowEntry || k == .flowMappingEnd) false false
        (.flowKey false) Token.line
    | _ => (m.expecting (.flowKey false)).emptyScalar t.line
  | .flowNoValue => m.look fun t => (m.expecting (.flowKey false)).emptyScalar t.line

/-- All steps, each at the cost of a unit of fuel, up to the end, to a complaint or to the last
token. -/
def run : Nat → Machine → List Event × Option Nat
  | 0, _ => ([], none)
  | fuel + 1, m =>
    match m.step with
    | .starved => ([], none)
    | .stop line => ([], some line)
    | .event e m =>
      let (es, line) := run fuel m
      (e :: es, line)

end Machine

/-- The events of a document, up to its end or to the line of a complaint about the structure or
the text. -/
def eventsOf (s : Text) : List Event × Option Nat :=
  let (tokens, textLine) := tokensOf s
  let (events, line) := Machine.run (4 * tokens.length + 4) ⟨tokens, .stream, [], []⟩
  (events, line <|> textLine)

end SecretWeave.Yaml
