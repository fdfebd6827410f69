import SecretWeave.Shell.Pattern
import SecretWeave.Shell.Session

/-!
# Fields

What a word becomes: bits of text, some of them given by parameters and commands, which are cut into
fields at separators. A field with signs that are not protected stands for the files that fit it, if
there are any.
-/

namespace SecretWeave.Shell

inductive Origin where
  | written
  | quoted
  | given
  deriving DecidableEq

inductive Bit where
  | text (origin : Origin) (text : Text)
  | quotes
  | list (quoted : Bool) (args : List Text)

/-! ## 1. Cutting -/

structure Cut where
  fields : List (List Glyph)
  current : List Glyph
  isOpen : Bool
  blankEnd : Bool
  afterList : Bool

namespace Cut

def empty : Cut := ⟨[], [], false, false, false⟩

def close (c : Cut) : Cut :=
  { c with fields := c.current.reverse :: c.fields, current := [], isOpen := false
           blankEnd := false }

def put (isQuoted : Bool) (c : Cut) (t : Text) : Cut :=
  { c with current := t.reverse.map (fun x => ⟨x, isQuoted⟩) ++ c.current, isOpen := true
           blankEnd := false }

def take (separators : Text) (c : Cut) (x : Option Char) : Cut :=
  let separates := x.all separators.contains
  let isBlank := separates && x.all Session.usualSeparators.contains
  if c.blankEnd && isBlank then c
  else if c.blankEnd && separates then { c with blankEnd := false }
  else if isBlank && !c.afterList then
    if c.isOpen then { c.close with blankEnd := true } else c
  else if separates then c.close
  else c.put false x.toList

def takeAll (separators : Text) (c : Cut) (xs : List (Option Char)) : Cut :=
  { xs.foldl (take separators) { c with blankEnd := false } with afterList := false }

def takeQuoted (c : Cut) : List Text → Cut
  | [] => { c with isOpen := true, afterList := true }
  | [a] => { c.put true a with afterList := true }
  | a :: as => takeQuoted (c.put true a).close as

def takeBit (separators : Text) (c : Cut) : Bit → Cut
  | .text .given t => c.takeAll separators (t.map some)
  | .text o t => if t.isEmpty then c else c.put (o = .quoted) t
  | .quotes => { c with isOpen := true }
  | .list true args => if args.isEmpty then c else c.takeQuoted args
  | .list false args =>
    c.takeAll separators ((args.map fun a => a.map some).intersperse [none]).flatten

end Cut

def fieldsOf (separators : Text) (bits : List Bit) : List (List Glyph) :=
  let c := bits.foldl (Cut.takeBit separators) .empty
  (if c.isOpen then c.close else c).fields.reverse

def glyphsOf (bits : List Bit) : List Glyph :=
  bits.flatMap fun
    | .text o t => t.map fun x => ⟨x, o = .quoted⟩
    | .quotes => []
    | .list isQuoted args => args.flatten.map fun x => ⟨x, isQuoted⟩

def plain (gs : List Glyph) : Text :=
  gs.map Glyph.char

/-! ## 2. Files -/

def pathText (t : Text) : Text :=
  Text.unoctets t

def namesAt (d : Disk) (path : Text) : List Text :=
  match d.find (if path.isEmpty then ['.'] else pathText path) with
  | .ok (l, .directory) => ["."  , ".."].map String.toList ++ (d.namesIn l).map Text.octets
  | _ => []

def stepsOf : List Glyph → List (List Glyph)
  | [] => [[]]
  | g :: r =>
    if g.char = '/' then [] :: stepsOf r
    else
      match stepsOf r with
      | [] => [[g]]
      | s :: ss => (g :: s) :: ss

def fitting (d : Disk) (path : Text) (step : List Glyph) : List Text :=
  let p := Pattern.ofGlyphs step
  let names := (namesAt d path).filter fun n =>
    (n.head? != some '.' || (step.head?.map Glyph.char) == some '.') && p.fits n
  names.mergeSort Text.atMost

def pathsFrom (d : Disk) : List Text → List (List Glyph) → List Text
  | paths, [] => paths
  | paths, [step] =>
    if Pattern.hasSigns step then paths.flatMap fun p => (fitting d p step).map (p ++ ·)
    else (paths.map (· ++ plain step)).filter fun p => d.has (pathText p)
  | paths, step :: steps =>
    let next :=
      if Pattern.hasSigns step then paths.flatMap fun p => (fitting d p step).map (p ++ ·)
      else paths.map (· ++ plain step)
    pathsFrom d (next.map (· ++ ['/'])) steps

def filesOf (d : Disk) (field : List Glyph) : List Text :=
  if Pattern.hasSigns field then
    match pathsFrom d [[]] (stepsOf field) with
    | [] => [plain field]
    | paths => paths
  else [plain field]

end SecretWeave.Shell
