import SecretWeave.Text.Basic

/-!
# Values of a TOML document

A document is a table of values by key, and tables hold tables. Where a table comes from decides
what may be added to it later: a table with a header of its own has no second header, one that
a dotted key made grows by dotted keys only, and one that stands in braces does not grow at all.

Of numbers, truth values and dates only the kind is kept.
-/

namespace SecretWeave.Toml

inductive Origin where
  | header
  | implied
  | dotted
  | braces
  deriving DecidableEq, Repr

inductive Value where
  | string (text : Text)
  | boolean
  | integer
  | float
  | datetime
  | array (values : List Value)
  | table (origin : Origin) (entries : List (Text × Value))
  | tables (entries : List (List (Text × Value)))
  deriving Repr

abbrev Entries := List (Text × Value)

namespace Entries

def find? (k : Text) : Entries → Option Value
  | [] => none
  | (l, v) :: es => if l = k then some v else find? k es

def store (k : Text) (v : Value) : Entries → Entries
  | [] => [(k, v)]
  | (l, w) :: es => if l = k then (k, v) :: es else (l, w) :: store k v es

def add? (k : Text) (v : Value) (es : Entries) : Option Entries :=
  match find? k es with
  | none => some (store k v es)
  | some _ => none

end Entries

abbrev Table := Origin × Entries

namespace Table

/-- Changes the table at the end of a path. Missing tables on the way are made, with the origin
`made`; of repeated tables the latest is meant. A dotted key does not go through a table with
a header of its own. -/
def change? (made : Origin) (f : Table → Option Entries) : List Text → Table → Option Entries
  | [], t => f t
  | k :: ks, t =>
    match Entries.find? k t.2 with
    | none => (change? made f ks (made, [])).map fun es => Entries.store k (.table made es) t.2
    | some (.table o es) =>
      -- braces close a table for good, and a header closes it for dotted keys
      if o = .braces ∨ (made = .dotted ∧ o = .header) then none
      else (change? made f ks (o, es)).map fun es => Entries.store k (.table o es) t.2
    | some (.tables (es :: older)) =>
      if made = .dotted then none
      else (change? made f ks (.header, es)).map fun es =>
        Entries.store k (.tables (es :: older)) t.2
    | some _ => none

def assign? (path : List Text) (v : Value) (t : Table) : Option Entries :=
  match path.getLast? with
  | none => none
  | some k =>
    change? .dotted
      (fun u =>
        -- a plain key belongs to a table that dotted keys did not make,
        -- a dotted key to one that they made
        if (u.1 = .dotted) = (path.length = 1) then none else Entries.add? k v u.2)
      path.dropLast t

def open? (path : List Text) (t : Table) : Option Entries :=
  match path.getLast? with
  | none => none
  | some k =>
    change? .implied
      (fun u =>
        match Entries.find? k u.2 with
        | none => some (Entries.store k (.table .header []) u.2)
        -- a table that was only on the way to another may still get its own header
        | some (.table .implied es) => some (Entries.store k (.table .header es) u.2)
        | some _ => none)
      path.dropLast t

def openNext? (path : List Text) (t : Table) : Option Entries :=
  match path.getLast? with
  | none => none
  | some k =>
    change? .implied
      (fun u =>
        match Entries.find? k u.2 with
        | none => some (Entries.store k (.tables [[]]) u.2)
        | some (.tables ts) => some (Entries.store k (.tables ([] :: ts)) u.2)
        | some _ => none)
      path.dropLast t

end Table

end SecretWeave.Toml
