import SecretWeave.OrderedMap
import SecretWeave.Yaml.Event
import SecretWeave.Yaml.Plain

/-!
# Reading a document

A text holds one document. Its events are turned into a value, aliases replaced by what they refer
to. No collection may be nested deeper than 128, aliases may not be followed without end, and the
keys of a mapping have to differ.

A complaint made while the value is built comes before a complaint about text behind the events it
was built from. It stands on the line of the innermost node that is being built, or on no line at
all.
-/

namespace SecretWeave.Yaml

structure Flaw where
  line : Option Nat
  deriving DecidableEq, Repr

/-! ## 1. The events of the first document -/

inductive NodeKind where
  | void
  | alias (target : Nat)
  | scalar (tag : Option Bytes) (text : Text) (style : Style)
  | sequenceStart (tag : Option Bytes)
  | sequenceEnd
  | mappingStart (tag : Option Bytes)
  | mappingEnd
  deriving DecidableEq, Repr

structure Node where
  kind : NodeKind
  line : Nat
  deriving DecidableEq, Repr

/-- The nodes of a document, what its anchors refer to, and the complaint that cut it short. -/
structure Document where
  nodes : List Node
  targets : List (Nat × Nat)
  flaw : Option Flaw
  more : Bool

/-- Anchors met so far: their names with their numbers, and the node of each number. A name that is
used again gets the number that the next new name gets too; the later node counts. -/
structure Anchors where
  names : List (Text × Nat)
  targets : List (Nat × Nat)

def Anchors.note (a : Anchors) (name : Option Text) (node : Nat) : Anchors :=
  match name with
  | none => a
  | some name =>
    let number := (distinct (a.names.map Prod.fst)).length
    ⟨(name, number) :: a.names, (number, node) :: a.targets⟩

/-- The nodes up to the end of the first document, as `count` nodes have been read before. -/
def firstDocument (line : Option Nat) : Nat → Anchors → List Event → Document
  | _, a, [] => ⟨[], a.targets, line.map fun n => ⟨some n⟩, false⟩
  | count, a, ⟨kind, here⟩ :: es =>
    let add := fun (property : Property) (node : NodeKind) =>
      let d := firstDocument line (count + 1) (a.note property.anchor count) es
      { d with nodes := ⟨node, here⟩ :: d.nodes }
    match kind with
    | .documentStart => firstDocument line count a es
    | .documentEnd =>
      let more := match es with
        | [] => true
        | e :: _ => e.kind != .streamEnd
      ⟨[], a.targets, none, more⟩
    | .streamEnd => ⟨[⟨.void, here⟩], a.targets, none, false⟩
    | .alias name =>
      match a.names.lookup name with
      | none => ⟨[], a.targets, some ⟨some here⟩, false⟩
      | some number => add .none (.alias number)
    | .scalar p text style => add p (.scalar p.tag text style)
    | .sequenceStart p => add p (.sequenceStart p.tag)
    | .sequenceEnd => add .none .sequenceEnd
    | .mappingStart p => add p (.mappingStart p.tag)
    | .mappingEnd => add .none .mappingEnd

/-! ## 2. Values -/

def maxDepth : Nat := 128

def aliasAllowance : Nat := 100

structure Progress where
  position : Nat
  jumps : Nat

/-- A complaint while a value is built: a flaw, or a complaint that has no line yet. -/
inductive Complaint where
  | settled (flaw : Flaw)
  | open

def Complaint.at (line : Nat) : Complaint → Complaint
  | .open => .settled ⟨some line⟩
  | c => c

abbrev Build (α : Type) := Except Complaint (α × Progress)

def coreTag (name : String) : Bytes :=
  Text.utf8 ("tag:yaml.org,2002:" ++ name).toList

/-- A tag of the document's own: it starts with an exclamation mark, which is left out unless it is
all. -/
def ownTag? (tag : Option Bytes) : Option Text :=
  match tag with
  | some (b :: r) =>
    if b.toNat == '!'.toNat then
      let bytes := if r.isEmpty then [b] else r
      let text := Text.decode bytes
      if Text.utf8 text == bytes then some text else none
    else none
  | _ => none

def readScalar? (tag : Option Bytes) (text : Text) (style : Style) : Option Value :=
  match tag with
  | none => if style == .plain then readPlain? text else some (.string text)
  | some tag =>
    if tag == coreTag "bool" then (readBool? text).map .bool
    else if tag == coreTag "int" then
      match readInteger text with
      | .fits n => some (.number n)
      | _ => none
    else if tag == coreTag "float" then (readFloat? text).map .number
    else if tag == coreTag "null" then if isNull text then some .null else none
    else if tag.head? == some 33 && style == .plain then readPlain? text
    else some (.string text)

def Document.cutShort (d : Document) : Complaint :=
  .settled (d.flaw.getD ⟨none⟩)

def buildItems (d : Document) (nodes : Array Node) (item : Progress → Build Value) :
    Nat → Progress → Build (List Value)
  | 0, _ => .error d.cutShort
  | fuel + 1, p =>
    match nodes[p.position]? with
    | none => .error d.cutShort
    | some ⟨.sequenceEnd, _⟩ => .ok ([], { p with position := p.position + 1 })
    | some _ =>
      match item p with
      | .error e => .error e
      | .ok (v, p) =>
        match buildItems d nodes item fuel p with
        | .error e => .error e
        | .ok (vs, p) => .ok (v :: vs, p)

/-- Collects entries until the mapping ends; each costs a unit of fuel. A key that is there already
is refused before its value is looked at. -/
def buildEntries (d : Document) (nodes : Array Node) (item : Progress → Build Value) :
    Nat → List (Value × Value) → Progress → Build (List (Value × Value))
  | 0, _, _ => .error d.cutShort
  | fuel + 1, before, p =>
    match nodes[p.position]? with
    | none => .error d.cutShort
    | some ⟨.mappingEnd, _⟩ => .ok ([], { p with position := p.position + 1 })
    | some _ =>
      match item p with
      | .error e => .error e
      | .ok (k, p) =>
        -- a repeated key is a fault of the mapping, and is placed where that starts
        if before.any fun e => e.1.same k then .error .open
        else
          match item p with
          | .error e => .error e
          | .ok (v, p) =>
            match buildEntries d nodes item fuel (before ++ [(k, v)]) p with
            | .error e => .error e
            | .ok (es, p) => .ok ((k, v) :: es, p)

def build (d : Document) (nodes : Array Node) (depth : Nat) (p : Progress) : Build Value :=
  match nodes[p.position]? with
  | none => .error d.cutShort
  | some node =>
    -- an alias stands for the node at its target; what follows the alias is read behind the alias
    let (place, behind) := match node.kind with
      | .alias target => ((d.targets.lookup target).getD 0, some (p.position + 1))
      | _ => (p.position, none)
    let jumps := if behind.isSome then p.jumps + 1 else p.jumps
    if behind.isSome && jumps > nodes.size * aliasAllowance then .error (.settled ⟨none⟩)
    else
      match nodes[place]? with
      | none => .error d.cutShort
      | some target =>
        let next : Progress := ⟨place + 1, jumps⟩
        let wrap := fun (tag : Option Bytes) (v : Value) =>
          match ownTag? tag with
          | some t => .tagged t v
          | none => v
        let built : Build Value := match target.kind with
          | .scalar tag text style =>
            let scalarTag := if (ownTag? tag).isSome then none else tag
            match readScalar? scalarTag text style with
            | some v => .ok (wrap tag v, next)
            | none => .error .open
          | .sequenceStart tag =>
            match depth with
            | 0 => .error (.settled ⟨some target.line⟩)
            | depth + 1 =>
              match buildItems d nodes (build d nodes depth) (nodes.size + 1) next with
              | .ok (vs, p) => .ok (wrap tag (.sequence vs), p)
              | .error e => .error e
          | .mappingStart tag =>
            match depth with
            | 0 => .error (.settled ⟨some target.line⟩)
            | depth + 1 =>
              match buildEntries d nodes (build d nodes depth) (nodes.size + 1) [] next with
              | .ok (es, p) => .ok (wrap tag (.mapping es), p)
              | .error e => .error e
          | _ => .ok (.null, next)
        match built with
        | .error e => .error (e.at target.line)
        | .ok (v, after) =>
          .ok (v, ⟨behind.getD after.position, after.jumps⟩)
termination_by depth

def load (s : Text) : Except Flaw Value :=
  let (events, line) := eventsOf s
  let d := firstDocument line 0 ⟨[], []⟩ events
  match build d d.nodes.toArray maxDepth ⟨0, 0⟩ with
  | .error (.settled f) => .error f
  | .error .open => .error ⟨none⟩
  | .ok (v, _) =>
    -- what is wrong behind the value still counts, and so does a second document
    match d.flaw with
    | some f => .error f
    | none => if d.more then .error ⟨none⟩ else .ok v

end SecretWeave.Yaml
