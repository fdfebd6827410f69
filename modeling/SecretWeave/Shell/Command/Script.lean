import SecretWeave.Shell.Command.Word

/-!
# Reading scripts

A script is read line by line: a line is a list of commands, which may go on over further lines
where something is still open. Words, signs and arrows are told apart first; reserved words are
reserved only where a command could start. The text that a redirection takes from the script is cut
out of the lines below.
-/

namespace SecretWeave.Shell

/-! ## 1. Tokens -/

inductive Sign where
  | and
  | andIf
  | bar
  | orIf
  | semicolon
  | twoSemicolons
  | opening
  | closing
  deriving DecidableEq

inductive Arrow where
  | to (direction : Direction)
  | lines (tabs : Bool)

inductive Token where
  | word (word : Word)
  | sign (sign : Sign)
  | arrow (number : Nat) (arrow : Arrow)
  | newline
  | finished

structure Cursor where
  rest : Text
  held : Option Token
  line : Nat
  skipped : Nat
  aliases : List (Text × Text)

abbrev Reader (α : Type) := StateT Cursor Option α

structure Grammar where
  list : (line optional : Bool) → Reader Command
  command : Reader Command

def Cursor.start (script : Text) (line : Nat) : Cursor := ⟨script, none, line, 0, []⟩

def Cursor.inside (c : Cursor) (script : Text) : Cursor := ⟨script, none, c.line, 0, c.aliases⟩

def Cursor.bound (c : Cursor) : Nat :=
  (c.rest.length + 3) * (1 + sumOf (c.aliases.map fun a => a.2.length))

def skipBlanks : Text → Text
  | ' ' :: r => skipBlanks r
  | '\t' :: r => skipBlanks r
  | '\\' :: '\n' :: r => skipBlanks r
  | '#' :: r => r.dropWhile (· != '\n')
  | r => r

def arrowOf (c : Char) (r : Text) : Nat × Arrow × Text :=
  if c = '>' then
    match joined r with
    | '>' :: r => (1, .to .append, r)
    | '|' :: r => (1, .to .clobber, r)
    | '&' :: r => (1, .to .same, r)
    | r => (1, .to .output, r)
  else
    match joined r with
    | '<' :: r =>
      match joined r with
      | '-' :: r => (0, .lines true, r)
      | r => (0, .lines false, r)
    | '&' :: r => (0, .to .same, r)
    | '>' :: r => (0, .to .both, r)
    | r => (0, .to .input, r)

def signOf (c : Char) (once twice : Sign) (r : Text) : Token × Text :=
  match joined r with
  | d :: r' => if c = d then (.sign twice, r') else (.sign once, d :: r')
  | [] => (.sign once, [])

def wordOrArrow (w : Word) (r : Text) : Token × Text :=
  match plainText? w, r with
  | some [d], c :: r' =>
    if d.isDigit && (c = '<' || c = '>') then
      (.arrow (d.toNat - 48) (arrowOf c r').2.1, (arrowOf c r').2.2)
    else (.word w, r)
  | _, _ => (.word w, r)

def tokenOf (inner : Inner) (place : Place) (input : Text) : Option (Token × Text) :=
  match skipBlanks input with
  | [] => some (.finished, [])
  | '\n' :: r => some (.newline, r)
  | '&' :: r => some (signOf '&' .and .andIf r)
  | '|' :: r => some (signOf '|' .bar .orIf r)
  | ';' :: r => some (signOf ';' .semicolon .twoSemicolons r)
  | '(' :: r => some (.sign .opening, r)
  | ')' :: r => some (.sign .closing, r)
  | c :: r =>
    if c = '<' || c = '>' then
      some (.arrow (arrowOf c r).1 (arrowOf c r).2.1, (arrowOf c r).2.2)
    else
      match readAt inner place (c :: r) with
      | none => none
      | some (w, r) => some (wordOrArrow w r)

namespace Grammar

variable (g : Grammar)

def nextAt (place : Place) : Reader Token := fun c =>
  match c.held with
  | some t => some (t, { c with held := none })
  | none =>
    let closed := fun (t : Text) =>
      (g.list false true (c.inside t)).bind fun p =>
        match p.2.held with
        | some (.sign .closing) => some (p.1, p.2.rest)
        | _ => none
    let whole := fun (t : Text) => (g.list false true (c.inside t)).map Prod.fst
    match tokenOf ⟨closed, whole⟩ place c.rest with
    | none => none
    | some (t, rest) =>
      let line := c.line + (Text.newlines c.rest - Text.newlines rest)
      match t with
      | .newline => some (t, ⟨rest, none, line + c.skipped, 0, c.aliases⟩)
      | _ => some (t, ⟨rest, none, line, c.skipped, c.aliases⟩)

def next : Reader Token := g.nextAt .bare

def hold (t : Token) : Reader Unit :=
  modify fun c => { c with held := some t }

def wordText? : Token → Option Text
  | .word w => plainText? w
  | _ => none

def isWord (word : String) (t : Token) : Bool :=
  wordText? t == some word.toList

def expect (word : String) : Reader Unit := do
  if isWord word (← g.next) then pure () else failure

def expectSign (s : Sign) : Reader Unit := do
  match ← g.next with
  | .sign t => if s = t then pure () else failure
  | _ => failure

def bound : Reader Nat := do
  return (← get).bound

def skipLines : Nat → Reader Unit
  | 0 => failure
  | n + 1 => do
    match ← g.next with
    | .newline => skipLines n
    | t => hold t

def nextBelow : Reader Token := do
  skipLines g (← bound)
  g.next

/-! ## 2. Redirections -/

def continues (l : Text) : Bool :=
  (l.reverse.takeWhile (· == '\\')).length % 2 = 1

/-- The text up to a line that is the mark, the lines behind that and the number of lines cut out. A
line behind one that continues is not taken for the mark. -/
def linesUpTo (joins tabs : Bool) (mark : Text) : Bool → List Text → Text × List Text × Nat
  | _, [] => ([], [], 0)
  | fresh, l :: ls =>
    let l := if fresh && tabs then l.dropWhile (· == '\t') else l
    if fresh && l == mark then ([], ls, 1)
    else
      let (t, rest, n) := linesUpTo joins tabs mark (!(joins && continues l)) ls
      (l ++ (if ls.isEmpty then [] else ['\n']) ++ t, rest, n + 1)

def markOf (w : Word) : Text :=
  w.flatMap fun
    | .text _ t => t
    | _ => []

def hasQuotes (w : Word) : Bool :=
  w.any fun
    | .quotes => true
    | .text q _ => q
    | _ => false

def cutLines (tabs : Bool) (mark : Word) : Reader Word := do
  let c ← get
  let head := c.rest.takeWhile (· != '\n')
  let quoted := hasQuotes mark
  match c.rest.dropWhile (· != '\n') with
  | [] => pure []
  | _ :: below =>
    let (t, rest, n) := linesUpTo (!quoted) tabs (markOf mark) true (Text.split '\n' below)
    let tail := if rest.isEmpty then [] else '\n' :: (rest.intersperse ['\n']).flatten
    set { c with rest := head ++ tail, skipped := c.skipped + n }
    if quoted then pure [.text true t]
    else
      let closed := fun (t : Text) =>
        (g.list false true (c.inside t)).bind fun p =>
          match p.2.held with
          | some (.sign .closing) => some (p.1, p.2.rest)
          | _ => none
      let whole := fun (t : Text) => (g.list false true (c.inside t)).map Prod.fst
      match readAt ⟨closed, whole⟩ .body t with
      | some (w, _) => pure w
      | none => failure

def redirection (number : Nat) (a : Arrow) : Reader Redirection := do
  match a with
  | .to d =>
    match ← g.next with
    | .word w => pure (.to number d w)
    | _ => failure
  | .lines tabs =>
    match ← g.nextAt .sign with
    | .word w => pure (.to number .here (← cutLines g tabs w))
    | _ => failure

def redirections : Nat → Reader (List Redirection)
  | 0 => failure
  | n + 1 => do
    match ← g.next with
    | .arrow number a => do
      let r ← g.redirection number a
      return r :: (← redirections n)
    | t => do
      hold t
      return []

/-! ## 3. Simple commands -/

def settingOf? : Word → Option (Text × Word)
  | .text false t :: ps =>
    match Text.cut? '=' t with
    | some (name, value) =>
      if Text.isName name then
        some (name, if value.isEmpty then ps else .text false value :: ps)
      else none
    | none => none
  | _ => none

def specialCommands : List Text :=
  [".", ":", "break", "continue", "eval", "exec", "exit", "export", "local", "readonly", "return",
    "set", "shift", "times", "trap", "unset"].map String.toList

def simple (line : Nat) : Nat → List (Text × Word) → List Word → List Redirection → Reader Command
  | 0, _, _, _ => failure
  | n + 1, settings, words, rs => do
    match ← g.next with
    | .word w =>
      match if words.isEmpty then settingOf? w else none with
      | some s => simple line n (settings ++ [s]) words rs
      | none => simple line n settings (words ++ [w]) rs
    | .arrow number a => do
      let r ← g.redirection number a
      simple line n settings words (rs ++ [r])
    | .sign .opening =>
      match words, settings, rs with
      | [w], [], [] => do
        g.expectSign .closing
        match plainText? w with
        | none => failure
        | some name =>
          if Text.isName name && !specialCommands.contains name then
            g.skipLines (← bound)
            return .define name (← g.command)
          else failure
      | _, _, _ => failure
    | t => do
      hold t
      return .simple line settings words rs

/-! ## 4. Commands made of commands -/

def otherwise : Nat → Reader Command
  | 0 => failure
  | n + 1 => do
    let t ← g.next
    if isWord "elif" t then
      let condition ← g.list false false
      g.expect "then"
      let yes ← g.list false false
      return .choice condition yes (← otherwise n)
    else if isWord "else" t then
      let no ← g.list false false
      g.expect "fi"
      return no
    else if isWord "fi" t then return .nothing
    else failure

def loopWords : Nat → Reader (List Word)
  | 0 => failure
  | n + 1 => do
    match ← g.next with
    | .word w => return w :: (← loopWords n)
    | .newline => return []
    | .sign .semicolon => return []
    | _ => failure

def forLoop : Reader Command := do
  match wordText? (← g.next) with
  | none => failure
  | some name =>
    if !Text.isName name then failure
    let t ← g.nextBelow
    let words ← if isWord "in" t then g.loopWords (← bound) else do
      match t with
      | .sign .semicolon => pure ()
      | t => hold t
      pure [[.parameter true ['@'] .value]]
    g.skipLines (← bound)
    g.expect "do"
    let body ← g.list false false
    g.expect "done"
    return .forEach name words body

def patterns : Nat → Token → Reader (List Word)
  | 0, _ => failure
  | n + 1, .word w => do
    match ← g.next with
    | .sign .bar => return w :: (← patterns n (← g.next))
    | .sign .closing => return [w]
    | _ => failure
  | _ + 1, _ => failure

def branches : Nat → Reader (List (List Word × Command))
  | 0 => failure
  | n + 1 => do
    let t ← g.nextBelow
    if isWord "esac" t then return []
    let t ← match t with
      | .sign .opening => g.next
      | t => pure t
    let ps ← g.patterns (← bound) t
    let body ← g.list false true
    let t ← g.nextBelow
    if isWord "esac" t then return [(ps, body)]
    match t with
    | .sign .twoSemicolons => return (ps, body) :: (← branches n)
    | _ => failure

def selection : Reader Command := do
  match ← g.next with
  | .word w => do
    g.skipLines (← bound)
    g.expect "in"
    return .select w (← g.branches (← bound))
  | _ => failure

def reserved : List Text :=
  ["!", "case", "do", "done", "elif", "else", "esac", "fi", "for", "if", "in", "then", "until",
    "while", "\x7b", "\x7d"].map String.toList

def reservedCommand (word : Text) : Option (Reader Command) :=
  match String.ofList word with
  | "if" => some do
    let condition ← g.list false false
    g.expect "then"
    let yes ← g.list false false
    return .choice condition yes (← g.otherwise (← bound))
  | "while" => some (loop true)
  | "until" => some (loop false)
  | "for" => some g.forLoop
  | "case" => some g.selection
  | "\x7b" => some do
    let c ← g.list false false
    g.expect "\x7d"
    return c
  | _ => if reserved.contains word then some failure else none
where
  loop (succeeds : Bool) : Reader Command := do
    let condition ← g.list false false
    g.expect "do"
    let body ← g.list false false
    g.expect "done"
    return .loop succeeds condition body

def withRedirections (c : Command) : List Redirection → Command
  | [] => c
  | rs =>
    match c with
    | .subshell c _ => .subshell c rs
    | c => .redirected c rs

/-- Puts texts in place of words that stand for them, and answers the first token that is left; a word
stands for itself in the text that it stands for. The number bounds the words. -/
def replaceAliases : Nat → (seen : List Text) → Token → Reader Token
  | 0, _, t => return t
  | n + 1, seen, t => do
    let c ← get
    match wordText? t with
    | none => return t
    | some name =>
      match c.aliases.lookup name with
      | none => return t
      | some text =>
        if seen.contains name then return t
        else do
          set { c with rest := text ++ c.rest }
          replaceAliases n (name :: seen) (← g.next)

def readCommand : Reader Command := do
  let t ← g.replaceAliases (← get).aliases.length [] (← g.next)
  match t with
  | .sign .opening => do
    let c ← g.list false false
    g.expectSign .closing
    return withRedirections (.subshell c []) (← g.redirections (← bound))
  | .arrow _ _ => do
    hold t
    simpleHere
  | .word w =>
    match (plainText? w).bind (reservedCommand g) with
    | some read => do
      let c ← read
      return withRedirections c (← g.redirections (← bound))
    | none => do
      hold t
      simpleHere
  | _ => failure
where
  simpleHere : Reader Command := do
    g.simple (← get).line (← bound) [] [] []

/-! ## 5. Lists -/

def pipeRest : Nat → Reader (List Command)
  | 0 => failure
  | n + 1 => do
    match ← g.next with
    | .sign .bar => do
      g.skipLines (← bound)
      let c ← g.readCommand
      return c :: (← pipeRest n)
    | t => do
      hold t
      return []

def pipeline : Reader Command := do
  let t ← g.next
  let inverted := isWord "!" t
  if !inverted then hold t
  let first ← g.readCommand
  let c := match ← g.pipeRest (← bound) with
    | [] => first
    | rest => .pipe (first :: rest)
  return if inverted then .invert c else c

def conditions : Nat → Command → Reader Command
  | 0, _ => failure
  | n + 1, c => do
    match ← g.next with
    | .sign .andIf => do
      g.skipLines (← bound)
      conditions n (.both c (← g.pipeline))
    | .sign .orIf => do
      g.skipLines (← bound)
      conditions n (.either c (← g.pipeline))
    | t => do
      hold t
      return c

def endsList : Token → Bool
  | .sign .closing => true
  | .sign .twoSemicolons => true
  | .word w =>
    match plainText? w with
    | some t =>
      (["then", "else", "elif", "fi", "do", "done", "esac", "\x7d"].map String.toList).contains t
    | none => false
  | _ => false

def readList (line : Bool) : Nat → (optional : Bool) → List Command → Reader (List Command)
  | 0, _, _ => failure
  | n + 1, optional, cs => do
    match ← g.next with
    | .newline => if line then return cs else readList line n optional cs
    | .finished => do
      hold .finished
      return cs
    | t => do
      hold t
      if optional && !line && endsList t then return cs
      let c ← g.conditions (← bound) (← g.pipeline)
      match ← g.next with
      | .finished => do
        hold .finished
        return cs ++ [c]
      | .newline => do
        hold .newline
        readList line n true (cs ++ [c])
      | .sign .and => readList line n true (cs ++ [.background c])
      | .sign .semicolon => readList line n true (cs ++ [c])
      | t =>
        if line then failure
        else do
          hold t
          return cs ++ [c]

end Grammar

def grammar : Nat → Grammar
  | 0 => ⟨fun _ _ => failure, failure⟩
  | n + 1 =>
    let g := grammar n
    ⟨fun line optional => do
      return Command.ofList (← g.readList line (← Grammar.bound) optional []), g.readCommand⟩

/-- What a line of a script says, and what follows it: nothing at the end of the script. The
outer option is none if the script makes no sense. -/
def nextLine (c : Cursor) : Option (Option (Command × Cursor)) :=
  let g := grammar c.bound
  match g.next c with
  | none => none
  | some (.finished, _) => some none
  | some (.newline, c) => some (some (.nothing, c))
  | some (t, c) => (g.list true false { c with held := some t }).map some

end SecretWeave.Shell
