import SecretWeave.Shell.Program.Call

/-!
# Programs that work on paths

Programs that make, move, copy, remove and list files, change their permissions, and take paths
apart.
-/

namespace SecretWeave.Shell.Program

/-! ## 1. Names -/

def trimSlashes (t : Text) : Text :=
  (t.reverse.dropWhile (· == '/')).reverse

def baseName (t : Text) : Text :=
  if t.isEmpty then []
  else
    match trimSlashes t with
    | [] => ['/']
    | t => (t.reverse.takeWhile (· != '/')).reverse

def dirName (t : Text) : Text :=
  match trimSlashes t with
  | [] => if t.isEmpty then ['.'] else ['/']
  | t =>
    if t.contains '/' then
      match trimSlashes (t.reverse.dropWhile (· != '/')).reverse with
      | [] => ['/']
      | d => d
    else ['.']

def withoutEnding (ending t : Text) : Text :=
  match Text.after? ending.reverse t.reverse with
  | some r => if r.isEmpty || ending.isEmpty then t else r.reverse
  | none => t

def basename (c : Call) : Report :=
  match readFrontOptions [('a', "multiple", false), ('s', "suffix", true), ('z', "zero", false)]
      c.args with
  | none => .misused c 1
  | some o =>
    if o.has 'a' || o.has 's' then
      .ofText c (unlines (o.operands.map fun t => withoutEnding ((o.value? 's').getD []) (baseName t))) 0
    else
      match o.operands with
      | [t] => .ofText c (baseName t ++ ['\n']) 0
      | [t, ending] => .ofText c (withoutEnding ending (baseName t) ++ ['\n']) 0
      | _ => .misused c 1

def dirname (c : Call) : Report :=
  match readOptions [('z', "zero", false)] c.args with
  | some ⟨_, t :: ts⟩ => .ofText c (unlines ((t :: ts).map dirName)) 0
  | _ => .misused c 1

/-! ## 2. Changing the disk -/

structure Change where
  disk : Disk
  code : Nat
  said : Text
  shown : Text

namespace Change

def start (c : Call) : Change := ⟨c.disk, 0, [], []⟩

def report (x : Change) (c : Call) : Report :=
  ⟨x.code, [(2, x.said), (1, x.shown)], 0, { x.disk with fed := c.disk.fed }⟩

def fail (x : Change) (program : String) (path : Text) (e : SystemError) : Change :=
  { x with code := 1, said := x.said ++ complaint program path e }

def step (x : Change) (program : String) (path : Text) : Except SystemError Disk → Change
  | .ok d => { x with disk := d }
  | .error e => x.fail program path e

end Change

def makeDirectory (d : Disk) (path : Text) : Except SystemError Disk :=
  match d.newPlace (Text.unoctets path) with
  | .ok l => .ok (d.put l .directory)
  | .error e => .error e

def makeDirectories (d : Disk) (path : Text) : Except SystemError Disk :=
  let starts := (Text.split '/' (trimSlashes path)).foldl
    (fun (p : List Text × Text) name => (p.1 ++ [p.2 ++ name], p.2 ++ name ++ ['/'])) ([], [])
  starts.1.foldl
    (fun r t => match r with
      | .error e => .error e
      | .ok d =>
        if t.isEmpty then .ok d
        else
          match d.find (Text.unoctets t) with
          | .ok (_, .directory) => .ok d
          | .ok _ => .error (if t = trimSlashes path then .exists else .notDirectory)
          | .error .notFound => makeDirectory d t
          | .error e => .error e)
    (.ok d)

def mkdir (c : Call) : Report :=
  match readOptions [('p', "parents", false), ('m', "mode", true), ('v', "verbose", false)] c.args with
  | none => .misused c 1
  | some ⟨_, []⟩ => .misused c 1
  | some o =>
    (o.operands.foldl (fun x p =>
      x.step "mkdir" p
        (if o.has 'p' then makeDirectories x.disk p else makeDirectory x.disk p))
      (Change.start c)).report c

def liesIn (l dir : Location) : Bool :=
  dir.length < l.length && l.take dir.length = dir

def eraseTree (d : Disk) (l : Location) : Disk :=
  { d with nodes := d.nodes.keep fun m => m != l && !liesIn m l }

def rmdir (c : Call) : Report :=
  match readOptions [('p', "parents", false), ('v', "verbose", false)] c.args with
  | none => .misused c 1
  | some ⟨_, []⟩ => .misused c 1
  | some o =>
    (o.operands.foldl (fun x p =>
      match x.disk.find (Text.unoctets p) with
      | .error e => x.fail "rmdir" p e
      | .ok (l, .directory) =>
        if (x.disk.namesIn l).isEmpty then { x with disk := x.disk.erase l }
        else x.fail "rmdir" p .notEmpty
      | .ok _ => x.fail "rmdir" p .notDirectory) (Change.start c)).report c

def rm (c : Call) : Report :=
  match readOptions [('r', "recursive", false), ('R', "", false), ('f', "force", false),
      ('d', "dir", false), ('i', "", false), ('v', "verbose", false)] c.args with
  | none => .misused c 1
  | some o =>
    if o.operands.isEmpty then .misused c (if o.has 'f' then 0 else 1)
    else
      (o.operands.foldl (fun x p =>
        match x.disk.find (Text.unoctets p) with
        | .error .notFound | .error .notDirectory =>
          if o.has 'f' then x else x.fail "rm" p .notFound
        | .error e => x.fail "rm" p e
        | .ok (l, .directory) =>
          if o.has 'r' || o.has 'R' then { x with disk := eraseTree x.disk l }
          else if o.has 'd' && (x.disk.namesIn l).isEmpty then { x with disk := x.disk.erase l }
          else x.fail "rm" p .isDirectory
        | .ok (l, .file _ _) => { x with disk := x.disk.erase l }
        | .ok _ => x.fail "rm" p .permissionDenied) (Change.start c)).report c

def targetOf (d : Disk) (source target : Text) : Text :=
  match d.find (Text.unoctets target) with
  | .ok (_, .directory) => trimSlashes target ++ '/' :: baseName source
  | _ => target

def putFile (d : Disk) (path : Text) (mode : Nat) (content : Bytes) (keep : Bool) :
    Except SystemError Disk :=
  let path := Text.unoctets path
  match d.find path with
  | .ok (l, .file old _) => .ok (d.put l (.file (if keep then mode else old) content))
  | .ok _ => d.overwrite path content
  | .error _ => d.create path mode content

def treeOf (d : Disk) (l : Location) : List (Location × Node) :=
  d.nodes.entries.filterMap fun e =>
    if liesIn e.1 l then some (e.1.drop l.length, e.2) else none

def copyTree (d : Disk) (from' to' : Location) : Disk :=
  (treeOf d from').foldl (fun d e => d.put (to' ++ e.1) e.2) (d.put to' .directory)

def cp (c : Call) : Report :=
  match readOptions [('r', "recursive", false), ('R', "", false), ('a', "archive", false),
      ('f', "force", false), ('p', "", false), ('n', "no-clobber", false), ('v', "verbose", false),
      ('t', "target-directory", true), ('T', "no-target-directory", false)] c.args with
  | none => .misused c 1
  | some o =>
    let (sources, target) := match o.value? 't' with
      | some t => (o.operands, some t)
      | none => (o.operands.dropLast, if o.operands.length < 2 then none else o.operands.getLast?)
    match target with
    | none => .misused c 1
    | some target =>
      let isDirectory := match c.disk.find (Text.unoctets target) with
        | .ok (_, .directory) => true
        | _ => false
      if 1 < sources.length && !isDirectory then .misused c 1
      else
        (sources.foldl (fun x p =>
          let to' := if o.has 'T' then target else targetOf x.disk p target
          match x.disk.find (Text.unoctets p) with
          | .error e => x.fail "cp" p e
          | .ok (l, .directory) =>
            if o.has 'r' || o.has 'R' || o.has 'a' then
              match x.disk.newPlace (Text.unoctets to') with
              | .ok m => { x with disk := copyTree x.disk l m }
              | .error .exists =>
                match x.disk.find (Text.unoctets to') with
                | .ok (m, .directory) => { x with disk := copyTree x.disk l m }
                | _ => x.fail "cp" to' .notDirectory
              | .error e => x.fail "cp" to' e
            else x.fail "cp" p .isDirectory
          | .ok (l, node) =>
            if o.has 'n' && x.disk.has (Text.unoctets to') then x
            else if (x.disk.find (Text.unoctets to')).toOption.map Prod.fst = some l then
              { x with code := 1 }
            else
              let mode := match node with
                | .file mode _ =>
                  if o.has 'p' || o.has 'a' then mode else Disk.masked (mode % 0o1000) c.mask
                | _ => Disk.masked 0o666 c.mask
              match x.disk.readBytes (Text.unoctets p) with
              | .ok content =>
                x.step "cp" to' (putFile x.disk to' mode content (o.has 'p' || o.has 'a'))
              | .error e => x.fail "cp" p e) (Change.start c)).report c

def mv (c : Call) : Report :=
  match readOptions [('f', "force", false), ('n', "no-clobber", false), ('v', "verbose", false),
      ('t', "target-directory", true), ('T', "no-target-directory", false)] c.args with
  | none => .misused c 1
  | some o =>
    let (sources, target) := match o.value? 't' with
      | some t => (o.operands, some t)
      | none => (o.operands.dropLast, if o.operands.length < 2 then none else o.operands.getLast?)
    match target with
    | none => .misused c 1
    | some target =>
      let isDirectory := match c.disk.find (Text.unoctets target) with
        | .ok (_, .directory) => true
        | _ => false
      if 1 < sources.length && !isDirectory then .misused c 1
      else
        (sources.foldl (fun x p =>
          let to' := if o.has 'T' then target else targetOf x.disk p target
          match x.disk.find (Text.unoctets p) with
          | .error e => x.fail "mv" p e
          | .ok (l, node) =>
            let goal := match x.disk.find (Text.unoctets to') with
              | .ok (m, _) => Except.ok m
              | .error _ => x.disk.newPlace (Text.unoctets to')
            match goal with
            | .error e => x.fail "mv" to' e
            | .ok m =>
              if m = l then { x with code := 1 }
              else if o.has 'n' && (x.disk.node? m).isSome then x
              else
                match node with
                | .directory =>
                  if liesIn m l then x.fail "mv" to' .invalid
                  else { x with disk := eraseTree (copyTree x.disk l m) l }
                | node => { x with disk := (x.disk.erase l).put m node }) (Change.start c)).report c

def touch (c : Call) : Report :=
  match readOptions [('c', "no-create", false), ('a', "", false), ('m', "", false),
      ('d', "date", true), ('t', "", true), ('r', "reference", true)] c.args with
  | none => .misused c 1
  | some ⟨_, []⟩ => .misused c 1
  | some o =>
    (o.operands.foldl (fun x p =>
      if x.disk.has (Text.unoctets p) || o.has 'c' then x
      else
        x.step "touch" p
          (x.disk.create (Text.unoctets p) (Disk.masked 0o666 c.mask) [])) (Change.start c)).report c

/-! ## 3. Permissions -/

def partyBits (parties : List Char) (bits : Nat) : Nat :=
  (if parties.contains 'u' then bits * 0o100 else 0) +
    (if parties.contains 'g' then bits * 0o10 else 0) + (if parties.contains 'o' then bits else 0)

def permissionBits (old : Nat) (letters : List Char) : Nat :=
  (if letters.contains 'r' then 4 else 0) + (if letters.contains 'w' then 2 else 0) +
    (if letters.contains 'x' || (letters.contains 'X' && old &&& 0o111 != 0) then 1 else 0)

def changeMode (mask : Nat) (old : Nat) (t : Text) : Option Nat :=
  let named := t.takeWhile ['u', 'g', 'o', 'a'].contains
  let parties := if named.isEmpty || named.contains 'a' then ['u', 'g', 'o'] else named
  let allowed := if named.isEmpty then 0o777 - mask % 0o1000 else 0o7777
  match t.drop named.length with
  | sign :: letters =>
    if !letters.all ['r', 'w', 'x', 'X', 's', 't'].contains then none
    else
      let special := (if letters.contains 's' then
          (if parties.contains 'u' then 0o4000 else 0) + (if parties.contains 'g' then 0o2000 else 0)
        else 0) + (if letters.contains 't' then 0o1000 else 0)
      let bits := (partyBits parties (permissionBits old letters) + special) &&& allowed
      match sign with
      | '+' => some (old ||| bits)
      | '-' => some (old - (old &&& bits))
      | '=' => some (old - (old &&& partyBits parties 7) + bits)
      | _ => none
  | [] => none

def modeOf (mask : Nat) (old : Nat) (t : Text) : Option Nat :=
  match digitsAt 8 t with
  | some (n, []) => if n < 0o10000 then some n else none
  | _ => (Text.split ',' t).foldl (fun m t => m.bind fun m => changeMode mask m t) (some old)

def chmod (c : Call) : Report :=
  let isMode := fun (a : Text) => match a with
    | '-' :: x :: _ => ['r', 'w', 'x', 'X', 's', 't'].contains x
    | _ => false
  let args := c.args.flatMap fun a => if isMode a then ["--".toList, a] else [a]
  match readOptions [('R', "recursive", false), ('v', "verbose", false), ('f', "silent", false),
      ('c', "changes", false)] args with
  | some ⟨_, mode :: p :: ps⟩ =>
    ((p :: ps).foldl (fun x p =>
      match x.disk.find (Text.unoctets p) with
      | .error e => x.fail "chmod" p e
      | .ok (l, .file old content) =>
        match modeOf c.mask old mode with
        | some m => { x with disk := x.disk.put l (.file m content) }
        | none => { x with code := 1 }
      | .ok _ => x) (Change.start c)).report c
  | _ => .misused c 1

/-! ## 4. Listing -/

def ls (c : Call) : Report :=
  match readOptions [('a', "all", false), ('A', "almost-all", false), ('1', "", false),
      ('d', "directory", false), ('r', "reverse", false), ('p', "", false), ('F', "classify", false),
      ('R', "recursive", false), ('U', "", false), ('C', "", false), ('m', "", false)] c.args with
  | none => .misused c 2
  | some o =>
    let operands := if o.operands.isEmpty then [['.']] else o.operands
    let order := fun (ts : List Text) =>
      let ts := ts.mergeSort Text.atMost
      if o.has 'r' then ts.reverse else ts
    let shown := fun (n : Text) => o.has 'a' || o.has 'A' || n.head? != some '.'
    let isDirectory := fun (p : Text) => match c.disk.find (Text.unoctets p) with
      | .ok (_, .directory) => true
      | _ => false
    let mark := fun (p n : Text) =>
      if (o.has 'p' || o.has 'F') && isDirectory p then n ++ ['/'] else n
    let listing := fun (p : Text) => match c.disk.find (Text.unoctets p) with
      | .ok (l, .directory) =>
        let own := if o.has 'a' then [".".toList, "..".toList] else []
        let names := order (own ++ ((c.disk.namesIn l).map Text.octets).filter shown)
        unlines (names.map fun n => mark (p ++ '/' :: n) n)
      | _ => []
    let missing := operands.filter fun p => !c.disk.has (Text.unoctets p)
    let said := missing.flatMap fun p =>
      match c.disk.find (Text.unoctets p) with
      | .error e => "ls: cannot access '".toList ++ p ++ "': ".toList ++ e.reason ++ ['\n']
      | .ok _ => []
    let there := operands.filter fun p => c.disk.has (Text.unoctets p)
    let files := order (there.filter fun p => o.has 'd' || !isDirectory p)
    let dirs := order (there.filter fun p => !o.has 'd' && isDirectory p)
    let titles := 1 < operands.length
    let sections := dirs.map fun p =>
      (if titles then p ++ [':', '\n'] else []) ++ listing p
    let body := (if files.isEmpty then [] else [unlines (files.map fun p => mark p p)]) ++ sections
    ⟨if missing.isEmpty then 0 else 2, [(2, said), (1, (body.intersperse ['\n']).flatten)], 0, c.disk⟩

def realpath (c : Call) : Report :=
  match readOptions [('e', "", false), ('m', "", false), ('s', "", false), ('q', "", false),
      ('f', "", false)] c.args with
  | none => .misused c 1
  | some o =>
    let found := o.operands.map fun p =>
      match c.disk.find (Text.unoctets p) with
      | .ok (l, _) => some (Text.octets (Disk.pathOf l))
      | .error .notFound =>
        match c.disk.newPlace (Text.unoctets p) with
        | .ok l => if o.has 'e' then none else some (Text.octets (Disk.pathOf l))
        | .error _ => none
      | .error _ => none
    .ofText c (unlines (found.filterMap id)) (if found.all Option.isSome then 0 else 1)

def statText (mode size : Nat) (kind name : Text) : Text → Text
  | '%' :: 'a' :: r => Nat.toDigits 8 mode ++ statText mode size kind name r
  | '%' :: 's' :: r => Text.ofNat size ++ statText mode size kind name r
  | '%' :: 'n' :: r => name ++ statText mode size kind name r
  | '%' :: 'F' :: r => kind ++ statText mode size kind name r
  | c :: r => c :: statText mode size kind name r
  | [] => []

def stat (c : Call) : Report :=
  match readOptions [('c', "format", true), ('L', "dereference", false)] c.args with
  | none => .misused c 1
  | some o =>
    match o.value? 'c' with
    | none => .misused c 1
    | some format =>
      let texts := o.operands.map fun p =>
        match c.disk.find (Text.unoctets p) with
        | .ok (_, .file mode content) =>
          let kind := if content.isEmpty then "regular empty file" else "regular file"
          some (statText mode content.length kind.toList p format)
        | .ok (_, .directory) => some (statText 0o755 4096 "directory".toList p format)
        | .ok _ => some (statText 0o666 0 "character special file".toList p format)
        | .error _ => none
      .ofText c (unlines (texts.filterMap id)) (if texts.all Option.isSome then 0 else 1)

end SecretWeave.Shell.Program
