import SecretWeave.Shell.Arithmetic
import SecretWeave.Shell.Field

/-!
# Expansion

What the parts of a word stand for. Parameters give their values or what is made of these, commands
what they write, expressions their numbers. How a command is run is given.
-/

namespace SecretWeave.Shell

inductive Usage where
  | fields
  | single
  | setting
  deriving DecidableEq

inductive Value where
  | text (text : Text)
  | list (joined : Bool) (args : List Text)

/-! ## 1. Parameters -/

def Session.numbered (sh : Session) (n : Nat) : Option Text :=
  match n with
  | 0 => some sh.name
  | n + 1 => sh.args[n]?

def optionLetters : List Char :=
  ['e', 'f', 'I', 'i', 'm', 'n', 's', 'x', 'v', 'V', 'E', 'C', 'a', 'b', 'u', 'p']

def Session.parameter (sh : Session) (name : Text) : Option Value :=
  match name with
  | ['@'] => some (.list false sh.args)
  | ['*'] => some (.list true sh.args)
  | ['#'] => some (.text (Text.ofNat sh.args.length))
  | ['?'] => some (.text (Text.ofNat sh.status))
  | ['$'] => some (.text (Text.ofNat sh.process))
  | ['-'] => some (.text (optionLetters.filter sh.has))
  | ['!'] => sh.jobs.head?.map fun j => .text (Text.ofNat j.number)
  | _ =>
    match digitsAt 10 name with
    | some (n, []) => (sh.numbered n).map .text
    | _ => (sh.value? name).map .text

def joinedBy (separators : Text) (args : List Text) : Text :=
  (args.intersperse (separators.take 1)).flatten

def Value.asText (separators : Text) : Value → Text
  | .text t => t
  | .list _ args => joinedBy separators args

def originOf (quoted : Bool) : Origin :=
  if quoted then .quoted else .given

def staysApart (sh : Session) (usage : Usage) (quoted joined : Bool) : Bool :=
  usage = .fields && if quoted then !joined else (sh.value? "IFS".toList).isSome

def valueBits (sh : Session) (usage : Usage) (quoted : Bool) : Value → List Bit
  | .text t => [.text (originOf quoted) t]
  | .list joined args =>
    if staysApart sh usage quoted joined then [.list quoted args]
    else [.text (originOf quoted) (joinedBy sh.separators args)]

/-! ## 2. Home directories -/

def homeOf (sh : Session) (name : Text) : Option Text :=
  if name.isEmpty then sh.value? "HOME".toList
  else if name = "root".toList then some "/root".toList
  else none

/-- The bits of a text that stands in a word; a tilde at its start leads home, if the name behind
it ends in this text or with the word. -/
def tildeBits (sh : Session) (usage : Usage) (origin : Origin) (last : Bool) (t : Text) : List Bit :=
  match t with
  | '~' :: r =>
    let stops := fun c => c = '/' || (usage = .setting && c = ':')
    let name := r.takeWhile fun c => !stops c
    let rest := r.drop name.length
    if rest.isEmpty && !last then [.text origin t]
    else
      match homeOf sh name with
      | some home => [.text .quoted home, .text origin rest]
      | none => [.text origin t]
  | t => [.text origin t]

def bitsOfText (sh : Session) (usage : Usage) (origin : Origin) (first last : Bool) (t : Text) :
    List Bit :=
  match usage with
  | .setting =>
    let pieces := Text.split ':' t
    let count := pieces.length
    (pieces.zipIdx.map fun p =>
      if p.2 = 0 && !first then [.text origin p.1]
      else tildeBits sh usage origin (last || p.2 + 1 < count) p.1).intersperse
        [.text origin [':']] |>.flatten
  | _ => if first then tildeBits sh usage origin last t else [.text origin t]

/-! ## 3. Words -/

def withoutLastLines (t : Text) : Text :=
  ((t.filter (· != '\x00')).reverse.dropWhile (· == '\n')).reverse

def keepStored (before after : Arithmetic.Known) : Act Unit :=
  (after.take (after.length - before.length)).reverse.forM fun e => assign e.1 e.2

def numberBits (quoted : Bool) (t : Text) : Act (List Bit) := do
  let fail := fun (reason : String) =>
    refuse ("arithmetic expression: ".toList ++ reason.toList ++ ": \"".toList ++ t ++ ['"']) 2
  match Arithmetic.readExpression t with
  | none => fail "expecting primary"
  | some e =>
    let sh ← get
    let known := sh.vars.entries.filterMap fun e => e.2.value.map fun v => (e.1, v)
    match Arithmetic.eval known e with
    | .error .unreadable => fail "expecting primary"
    | .error .zeroDivision => fail "division by zero"
    | .error (.badNumber v) => refuse ("Illegal number: ".toList ++ v) 2
    | .ok (n, after) =>
      keepStored known after
      return [.text (originOf quoted) (ofInteger n)]

def complain (name word : Text) (empty : Bool) : Act α :=
  let message :=
    if !word.isEmpty then word
    else if empty then "parameter not set or null".toList
    else "parameter not set".toList
  refuse (name ++ ": ".toList ++ message) 2

abbrev BitsOf := (usage : Usage) → (inner : Bool) → List Part → Act (List Bit)

def present (sh : Session) (name : Text) (empty : Bool) : Option Value :=
  match sh.parameter name with
  | none => none
  | some v => if empty && (v.asText sh.separators).isEmpty then none else some v

def parameterBits (again : BitsOf) (usage : Usage) (quoted : Bool) (name : Text) (use : Use) :
    Act (List Bit) := do
  let sh ← get
  let found := fun v => valueBits sh usage quoted v
  -- the value that must be there where the option says so
  let required : Act (Option Value) :=
    match sh.parameter name with
    | some v => pure (some v)
    | none =>
      if sh.has 'u' && name != ['@'] && name != ['*'] then complain name [] false else pure none
  let cut := fun (f : Pattern → Text → Text) (g : Pattern → List Text → List Text)
      (pattern : List Part) => do
    match ← required with
    | none => pure []
    | some v =>
      let p := Pattern.ofGlyphs (glyphsOf (← again .single false pattern))
      let sh ← get
      pure (match v with
        | .text t => valueBits sh usage quoted (.text (f p t))
        | .list joined args =>
          if staysApart sh usage quoted joined then [.list quoted (g p args)]
          else valueBits sh usage quoted (.text (f p (joinedBy sh.separators args))))
  match use with
  | .value => return ((← required).map found).getD []
  | .length =>
    let v ← required
    let n := (v.map fun v => (v.asText sh.separators).length).getD 0
    return [.text (originOf quoted) (Text.ofNat n)]
  | .orElse empty word =>
    match present sh name empty with
    | some v => return found v
    | none => again usage (!quoted) word
  | .orStore empty word =>
    match present sh name empty with
    | some v => return found v
    | none =>
      let value := plain (glyphsOf (← again .single (!quoted) word))
      if !Text.isName name then refuse (name ++ ": bad variable name".toList) 2
      assign name value
      return [.text (originOf quoted) value]
  | .orEnd empty word =>
    match present sh name empty with
    | some v => return found v
    | none => complain name (plain (glyphsOf (← again .single (!quoted) word))) empty
  | .instead empty word =>
    match present sh name empty with
    | some _ => again usage (!quoted) word
    | none => return []
  | .cutStart longest pattern =>
    cut (fun p => p.cutStart longest) (fun p => p.cutStarts longest) pattern
  | .cutEnd longest pattern => cut (fun p => p.cutEnd longest) (fun p => p.cutEnds longest) pattern
  | .malformed => refuse "Bad substitution".toList 2

def partBits (substitute : Command → Act Text) (again : BitsOf) (usage : Usage)
    (inner first last : Bool) (p : Part) : Act (List Bit) := do
  match p with
  | .text true t => return [.text .quoted t]
  | .text false t =>
    return bitsOfText (← get) usage (if inner then .given else .written) first last t
  | .quotes => return [.quotes]
  | .parameter quoted name use => parameterBits again usage quoted name use
  | .output quoted c => return [.text (originOf quoted) (withoutLastLines (← substitute c))]
  | .arithmetic quoted e => do
    let t := plain (glyphsOf (← again .single false e))
    numberBits quoted t

def partsBits (bits : (first last : Bool) → Part → Act (List Bit)) (first : Bool) :
    List Part → Act (List Bit)
  | [] => pure []
  | p :: ps => do
    let b ← bits first ps.isEmpty p
    return b ++ (← partsBits bits false ps)

def bitsWithin (substitute : Command → Act Text) : Nat → BitsOf
  | 0, _, _, _ => pure []
  | n + 1, usage, inner, w =>
    partsBits (fun first last p =>
      partBits substitute (bitsWithin substitute n) usage inner first last p) true w

def maxDepth : Nat := 1000

def bitsOf (substitute : Command → Act Text) (usage : Usage) (w : Word) : Act (List Bit) :=
  bitsWithin substitute maxDepth usage false w

def textOf (substitute : Command → Act Text) (usage : Usage) (w : Word) : Act Text := do
  return plain (glyphsOf (← bitsOf substitute usage w))

def patternOf (substitute : Command → Act Text) (w : Word) : Act Pattern := do
  return Pattern.ofGlyphs (glyphsOf (← bitsOf substitute .single w))

def fieldTexts (substitute : Command → Act Text) (w : Word) : Act (List Text) := do
  let bits ← bitsOf substitute .fields w
  let sh ← get
  let fields := fieldsOf sh.separators bits
  return if sh.has 'f' then fields.map plain else fields.flatMap (filesOf sh.system.disk)

def wordTexts (substitute : Command → Act Text) : List Word → Act (List Text)
  | [] => pure []
  | w :: ws => do
    let ts ← fieldTexts substitute w
    return ts ++ (← wordTexts substitute ws)

end SecretWeave.Shell
