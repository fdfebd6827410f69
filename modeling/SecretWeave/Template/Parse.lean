import SecretWeave.Piece
import SecretWeave.Template.Basic
import SecretWeave.Version

/-!
# Reading templates

Each piece of a text becomes one segment. A tag whose trimmed content is a name is a variable. Any
other tag is a reference to a secret, and its content is read as a template of its own, which may
hold text without blanks and variables. Tags three deep can only be variables.

Main fact: a successful reading has one segment per piece (`length_of_readPieces`).
-/

namespace SecretWeave

namespace Template

/-! ## 1. Paths -/

/-- The part of a path that a segment can be: text without blanks and controls, or a variable. -/
def partOf? : Segment → Option PathPart
  | .literal t => if t.all Text.isSolid then some (.text t) else none
  | .var v => some (.var v)
  | .secret _ _ => none

def parts? : List Segment → Option (List PathPart)
  | [] => some []
  | s :: l =>
    match partOf? s with
    | none => none
    | some p => (parts? l).map (p :: ·)

/-- The path that parts make up: a pattern when they embed a variable, and else their text, which
has to be a path. -/
def pathOf (parts : List PathPart) : Except Fault SecretPath :=
  if parts.any fun p => p.embedded?.isSome then .ok (.pattern parts)
  else
    let p := parts.flatMap PathPart.source
    if Text.isPath p then .ok (.path p) else .error (.badPath p)

/-! ## 2. Tags -/

/-- The segment of a tag. `inner` reads the content of a reference; there is none for a tag at the
greatest depth. Faults inside the content count lines from the tag's first line. -/
def readTag (inner : Option (Text → Except Fault Template)) (content raw : Text) :
    Except Fault Segment :=
  let trimmed := Text.trim content
  if Text.isName trimmed then .ok (.var ⟨trimmed, raw⟩)
  else
    match inner with
    | none => .error (.badPath trimmed)
    | some read =>
      match read trimmed with
      -- blank lines in front of the content count, though they are trimmed
      | .error f => .error (f.atLine (Text.newlines (Text.indentation content) + 1))
      | .ok t =>
        match parts? t.segments with
        | none => .error (.badPath trimmed)
        | some parts =>
          match pathOf parts with
          | .error f => .error f
          | .ok p => .ok (.secret p raw)

/-- The segment of a piece; a fault of a tag is placed on the tag's line. -/
def readPiece (inner : Option (Text → Except Fault Template)) : Piece → Except Fault Segment
  | .literal text _ => .ok (.literal text)
  | .tag _ content raw line =>
    match readTag inner content raw with
    | .ok s => .ok s
    | .error f => .error (f.atLine line)

def readPieces (inner : Option (Text → Except Fault Template)) :
    List Piece → Except Fault (List Segment)
  | [] => .ok []
  | p :: ps =>
    match readPiece inner p with
    | .error f => .error f
    | .ok s =>
      match readPieces inner ps with
      | .error f => .error f
      | .ok ss => .ok (s :: ss)

theorem length_of_readPieces {inner : Option (Text → Except Fault Template)} {ps : List Piece}
    {ss : List Segment} (h : readPieces inner ps = .ok ss) : ss.length = ps.length := by
  induction ps generalizing ss with
  | nil => simp only [readPieces, Except.ok.injEq] at h; simp [← h]
  | cons p ps ih =>
    simp only [readPieces] at h
    split at h
    · simp at h
    · split at h
      · simp at h
      · rename_i ss' hs
        obtain rfl := Except.ok.inj h
        simp [ih hs]

/-! ## 3. Templates -/

def readWith (bs : Brackets) (inner : Option (Text → Except Fault Template)) (s : Text) :
    Except Fault Template :=
  let ps := Pieces.ofText bs s
  match readPieces inner ps.pieces with
  | .error f => .error f
  | .ok segments =>
    match ps.fault with
    | some f => .error f
    | none => .ok ⟨segments⟩

def readDeep (bs : Brackets) : Nat → Text → Except Fault Template
  | 0 => readWith bs none
  | depth + 1 => readWith bs (some (readDeep bs depth))

/-- How deep references may be nested: a reference inside a reference is read, to name what is
wrong with it, and not one level further. -/
def maxDepth : Nat := 2

def parse (v : Version) (s : Text) : Except Fault Template :=
  readDeep v.brackets maxDepth s

@[simp] theorem parse_nil (v : Version) : parse v [] = .ok ⟨[]⟩ := by
  cases v <;> simp [parse, readDeep, maxDepth, readWith, Pieces.ofText, Brackets.cut, readPieces]

end Template

end SecretWeave
