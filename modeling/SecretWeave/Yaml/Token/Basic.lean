import SecretWeave.Yaml.Cell

/-!
# Tokens of a document

A token is what the layout of a document says explicitly, such as a dash, a scalar or a tag, or
implicitly by indentation, such as the start of a block mapping. Every token has the line it starts
on.
-/

namespace SecretWeave.Yaml

inductive Style where
  | plain
  | quoted
  deriving DecidableEq, Repr

/-- A tag as written: a handle and a suffix, in octets. A verbatim tag has an empty handle. -/
structure TagName where
  handle : Bytes
  suffix : Bytes
  deriving DecidableEq, Repr

inductive TokenKind where
  | streamStart
  | streamEnd
  | versionDirective (major minor : Nat)
  | tagDirective (handle start : Bytes)
  | documentStart
  | documentEnd
  | blockSequenceStart
  | blockMappingStart
  | blockEnd
  | flowSequenceStart
  | flowSequenceEnd
  | flowMappingStart
  | flowMappingEnd
  | blockEntry
  | flowEntry
  | key
  | value
  | alias (name : Text)
  | anchor (name : Text)
  | tag (name : TagName)
  | scalar (text : Text) (style : Style)
  deriving DecidableEq, Repr

structure Token where
  kind : TokenKind
  line : Nat
  deriving DecidableEq, Repr

def stopAt {α : Type} (cs : Cells) : Except Nat α :=
  .error cs.line

def untilNul (bs : Bytes) : Bytes :=
  bs.takeWhile (· ≠ 0)

end SecretWeave.Yaml
