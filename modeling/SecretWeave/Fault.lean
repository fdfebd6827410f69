import SecretWeave.Text.Basic

/-!
# Template faults

What can be wrong with a template, an env file or the values given for them. A fault may carry the
line it was found on. A line found inside a fragment counts from the fragment's own first line, so
placing the fragment moves the line (`atLine`).

Main facts: placing a fault keeps its cause (`root_atLine`) and adds up lines (`atLine_located`).
-/

namespace SecretWeave

inductive Reason where
  | stated (text : Text)
  | unreadable
  deriving DecidableEq, Repr

def Reason.text : Reason → Text
  | .stated t => t
  | .unreadable => "the text cannot be read".toList

inductive Fault where
  | unclosedTag (closer : Text)
  | badName (name : Text)
  | undefinedVariable (name : Text)
  | badPath (path : Text)
  | notKeyValue
  /-- A document is not a flat mapping; the line is known for some reasons only. -/
  | malformedDocument (line : Option Nat) (reason : Reason)
  | missingSecret (path : Text)
  | unknownVersion (selector : Text)
  | located (line : Nat) (fault : Fault)
  deriving DecidableEq, Repr

namespace Fault

/-- Places a fault on a line. The line of a fault that already has one counts from the start of
a fragment, and the fragment starts on `line`. -/
def atLine (line : Nat) : Fault → Fault
  | .located inner f => .located (line + inner - 1) f
  | f => .located line f

def line? : Fault → Option Nat
  | .located n _ => some n
  | .malformedDocument n _ => n
  | _ => none

def root : Fault → Fault
  | .located _ f => f.root
  | f => f

@[simp] theorem atLine_located (n m : Nat) (f : Fault) :
    (located m f).atLine n = located (n + m - 1) f := rfl

@[simp] theorem root_atLine (n : Nat) (f : Fault) : (f.atLine n).root = f.root := by
  cases f <;> rfl

def message : Fault → Text
  | .unclosedTag closer =>
    "template syntax error: tag not closed, expected '".toList ++ closer ++ "'".toList
  | .badName name =>
    "invalid variable name '".toList ++ name ++ "': must match [A-Za-z_][A-Za-z0-9_]*".toList
  | .undefinedVariable name =>
    "variable '".toList ++ name ++
      "' is used in the template but no value was supplied".toList
  | .badPath path => "invalid secret path '".toList ++ path ++ "'".toList
  | .notKeyValue => "template is not formatted as key=value pairs".toList
  | .malformedDocument _ reason => "malformed document: ".toList ++ reason.text
  | .missingSecret path =>
    "no value supplied for secret '".toList ++ path ++
      "'; fetch every path returned by secrets() first".toList
  | .unknownVersion selector =>
    "unknown template version: '".toList ++ selector ++
      "' supported versions are 1, 2 and latest".toList
  | .located n f => "template error at line ".toList ++ Text.ofNat n ++ ": ".toList ++ f.message

end Fault

end SecretWeave
