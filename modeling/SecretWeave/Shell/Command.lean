import SecretWeave.Text.Basic

/-!
# Commands

What a script says, as a tree: words with quotes, parameters and commands in them, redirections, and
commands made of commands.
-/

namespace SecretWeave.Shell

inductive Direction where
  | input
  | output
  | clobber
  | append
  | both
  | same
  | here
  deriving DecidableEq, Repr

mutual

inductive Part where
  | text (quoted : Bool) (text : Text)
  | quotes
  | parameter (quoted : Bool) (name : Text) (use : Use)
  | output (quoted : Bool) (command : Command)
  | arithmetic (quoted : Bool) (expression : List Part)

/-- What is made of the value of a parameter. A value counts as missing if it is not set or, if
`empty` says so, if it is empty. -/
inductive Use where
  | value
  | length
  | orElse (empty : Bool) (word : List Part)
  | orStore (empty : Bool) (word : List Part)
  | orEnd (empty : Bool) (word : List Part)
  | instead (empty : Bool) (word : List Part)
  | cutStart (longest : Bool) (pattern : List Part)
  | cutEnd (longest : Bool) (pattern : List Part)
  | malformed

inductive Redirection where
  | to (number : Nat) (direction : Direction) (target : List Part)

inductive Command where
  | nothing
  | simple (line : Nat) (settings : List (Text × List Part)) (words : List (List Part))
      (redirections : List Redirection)
  | sequence (first second : Command)
  | both (first second : Command)
  | either (first second : Command)
  | invert (command : Command)
  | pipe (commands : List Command)
  | background (command : Command)
  | subshell (command : Command) (redirections : List Redirection)
  | redirected (command : Command) (redirections : List Redirection)
  | choice (condition yes no : Command)
  | loop (succeeds : Bool) (condition body : Command)
  | forEach (name : Text) (words : List (List Part)) (body : Command)
  | select (word : List Part) (branches : List (List (List Part) × Command))
  | define (name : Text) (body : Command)

end

abbrev Word := List Part

namespace Command

def ofList : List Command → Command
  | [] => .nothing
  | c :: cs => cs.foldl .sequence c

end Command

end SecretWeave.Shell
