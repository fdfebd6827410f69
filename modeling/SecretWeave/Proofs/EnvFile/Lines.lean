import SecretWeave.Proofs.EnvFile
import SecretWeave.Proofs.Storing
import SecretWeave.Proofs.Template.Blame

/-!
# Env files read line by line

A line of an env file is silent, or it has to give a key and a value around its first equals sign.
A file is read when all its lines are in order, and its entries are the values that came last, at
the places where their keys came first. Otherwise the first line that is not in order is at fault
(`parse_lines`).
-/

namespace SecretWeave

theorem Fault.root_root (f : Fault) : f.root.root = f.root := by
  induction f with
  | located n f ih => exact ih
  | _ => rfl

/-! ## 1. Lines of a text -/

namespace Text

def dropReturn (l : Text) : Text :=
  if l.getLast? = some '\r' then l.dropLast else l

/-- The lines of a text are what its line feeds end. A carriage return directly before a line feed
is no part of the line, and what follows the last line feed is a line unless it is empty. -/
inductive Lines : Text → List Text → Prop
  | nil : Lines [] []
  | last {l : Text} (hl : '\n' ∉ l) (hne : l ≠ []) : Lines l [l]
  | cons {l r : Text} {ls : List Text} (hl : '\n' ∉ l) (rest : Lines r ls) :
      Lines (l ++ '\n' :: r) (dropReturn l :: ls)

theorem dropReturn_cons {c : Char} {l : Text} (h : l = [] → c ≠ '\r') :
    dropReturn (c :: l) = c :: dropReturn l := by
  unfold dropReturn
  cases l with
  | nil => simp [h rfl]
  | cons d l =>
    rw [List.getLast?_cons_cons, List.dropLast_cons_cons]
    split <;> rfl

/-- The lines that are read are the lines of the text, in the sense of `Lines`. -/
theorem lines_lines (s : Text) : Lines s (lines s) := by
  fun_induction lines s with
  | case1 => exact .nil
  | case2 r ih => exact .cons (l := []) (by simp) ih
  | case3 r ih => exact .cons (l := ['\r']) (by decide) ih
  | case4 c r hfeed hreturn hnil ih =>
    -- without a further line there is no further text
    rw [hnil] at ih
    cases ih
    exact .last (by simpa using fun h => hfeed h.symm) (by simp)
  | case5 c r hfeed hreturn l ls hls ih =>
    rw [hls] at ih
    have hc : '\n' ≠ c := fun h => hfeed h.symm
    cases ih with
    | last hl hne => exact .last (by simp [hc, hl]) (by simp)
    | @cons l' r' _ hl rest =>
      have hdrop : dropReturn (c :: l') = c :: dropReturn l' := by
        apply dropReturn_cons
        rintro rfl rfl
        exact hreturn r' rfl rfl
      rw [← hdrop, ← List.cons_append]
      exact .cons (by simp [hc, hl]) rest

theorem not_mem_of_lines {s : Text} {ls : List Text} (h : Lines s ls) : ∀ l ∈ ls, '\n' ∉ l := by
  induction h with
  | nil => simp
  | last hl hne => simpa using hl
  | @cons l r ls hl rest ih =>
    rw [List.forall_mem_cons]
    refine ⟨?_, ih⟩
    unfold dropReturn
    split
    · exact fun h => hl (List.dropLast_subset l h)
    · exact hl

theorem mem_of_mem_trim {c : Char} {s : Text} (h : c ∈ trim s) : c ∈ s := by
  obtain ⟨trail, hs⟩ := Brackets.exists_trim_append s
  rw [hs]
  simp [h]

end Text

/-- The template of a text, which is empty for a text that cannot be read. -/
def Template.read (v : Version) (s : Text) : Template :=
  match Template.parse v s with
  | .ok t => t
  | .error _ => ⟨[]⟩

theorem Template.read_eq {v : Version} {s : Text} {t : Template} (h : Template.parse v s = .ok t) :
    Template.read v s = t := by
  unfold Template.read
  rw [h]

namespace EnvFile

variable {v : Version} {line key value : Text} {f : Fault}

/-! ## 2. What a line says -/

def silent (line : Text) : Bool :=
  match Text.trim line with
  | [] => true
  | c :: _ => c == '#'

/-- The key and the value that a line gives: the texts before and behind its first equals sign,
trimmed. -/
def assignment? (line : Text) : Option (Text × Text) :=
  if silent line then none
  else (Text.cut? '=' (Text.trim line)).map fun p => (Text.trim p.1, Text.trim p.2)

def assignments (s : Text) : List (Text × Text) :=
  (Text.lines s).filterMap assignment?

/-- Lines that can be read: silent ones, and those that give an identifier and a template. -/
inductive LineOk (v : Version) (line : Text) : Prop
  | silent (h : silent line = true)
  | entry {key value : Text} {t : Template} (h : assignment? line = some (key, value))
      (hname : Text.isName key = true) (ht : Template.parse v value = .ok t)

inductive LineFault (v : Version) (line : Text) : Fault → Prop
  | notKeyValue (h : silent line = false) (hsign : '=' ∉ Text.trim line) :
      LineFault v line .notKeyValue
  | badName {key value : Text} (h : assignment? line = some (key, value))
      (hname : Text.isName key = false) : LineFault v line (.badName key)
  | badValue {key value : Text} {f : Fault} (h : assignment? line = some (key, value))
      (hname : Text.isName key = true) (hf : Template.parse v value = .error f) :
      LineFault v line f.root

theorem silent_of_assignment? (h : assignment? line = some (key, value)) : silent line = false := by
  unfold assignment? at h
  cases hs : silent line with
  | false => rfl
  | true => simp [hs] at h

theorem assignment?_eq_none_iff (hs : silent line = false) :
    assignment? line = none ↔ '=' ∉ Text.trim line := by
  unfold assignment?
  simp [hs, Text.cut?_eq_none_iff]

theorem readLine_of_silent (h : silent line = true) : readLine v line = .ok none := by
  unfold silent at h
  unfold readLine
  split
  · rfl
  · rfl
  · rename_i hnil hcomment
    split at h
    · rename_i htrim
      exact absurd htrim hnil
    · rename_i c r htrim
      obtain rfl : c = '#' := by simpa using h
      exact absurd htrim (hcomment r)

/-- A line that is neither blank nor a comment is an assignment or a fault. -/
theorem readLine_of_not_silent (h : silent line = false) :
    readLine v line =
      match assignment? line with
      | none => .error .notKeyValue
      | some (key, value) =>
        match checkName key with
        | .error f => .error f
        | .ok () =>
          match Template.parse v value with
          | .error f => .error f
          | .ok t => .ok (some (key, t)) := by
  unfold assignment?
  simp only [h, Bool.false_eq_true, if_false]
  unfold silent at h
  unfold readLine
  split
  · rename_i htrim
    simp [htrim] at h
  · rename_i htrim
    simp [htrim] at h
  · cases Text.cut? '=' (Text.trim line) <;> rfl

theorem readLine_of_badName (h : assignment? line = some (key, value))
    (hname : Text.isName key = false) : readLine v line = .error (.badName key) := by
  have hcheck : checkName key = .error (.badName key) := by
    unfold checkName
    rw [if_neg (by simp [hname])]
  rw [readLine_of_not_silent (silent_of_assignment? h), h]
  simp only [hcheck]

theorem readLine_of_isName (h : assignment? line = some (key, value))
    (hname : Text.isName key = true) :
    readLine v line = (Template.parse v value).map fun t => some (key, t) := by
  have hcheck : checkName key = .ok () := if_pos hname
  rw [readLine_of_not_silent (silent_of_assignment? h), h]
  simp only [hcheck]
  cases Template.parse v value <;> rfl

/-- Every line can be read or has a fault. -/
theorem lineOk_or_lineFault (v : Version) (line : Text) :
    LineOk v line ∨ ∃ f, LineFault v line f := by
  cases hs : silent line with
  | true => exact .inl (.silent hs)
  | false =>
    cases h : assignment? line with
    | none => exact .inr ⟨_, .notKeyValue hs ((assignment?_eq_none_iff hs).1 h)⟩
    | some entry =>
      obtain ⟨key, value⟩ := entry
      cases hname : Text.isName key with
      | false => exact .inr ⟨_, .badName h hname⟩
      | true =>
        cases ht : Template.parse v value with
        | ok t => exact .inl (.entry h hname ht)
        | error f => exact .inr ⟨_, .badValue h hname ht⟩

/-- A good line gives its key and the template of its value, or nothing if it is silent. -/
theorem readLine_of_ok (h : LineOk v line) :
    readLine v line = .ok ((assignment? line).map fun a => (a.1, Template.read v a.2)) := by
  cases h with
  | silent hs =>
    rw [readLine_of_silent hs, assignment?, if_pos hs]
    rfl
  | entry ha hname ht =>
    rw [readLine_of_isName ha hname, ht, ha, Option.map_some, Template.read_eq ht]
    rfl

theorem not_mem_value (hline : '\n' ∉ line) (h : assignment? line = some (key, value)) :
    '\n' ∉ value := by
  unfold assignment? at h
  rw [silent_of_assignment? h, if_neg (by simp), Option.map_eq_some_iff] at h
  obtain ⟨⟨k, t⟩, hcut, he⟩ := h
  obtain ⟨-, rfl⟩ := Prod.mk.injEq .. ▸ he
  obtain ⟨htrim, -⟩ := Text.eq_of_cut? hcut
  intro hmem
  apply hline
  apply Text.mem_of_mem_trim
  rw [htrim]
  simp [Text.mem_of_mem_trim hmem]

/-- A value stands on one line, so a fault in it is on the line of the file. -/
theorem readLine_of_fault (h : LineFault v line f) (hline : '\n' ∉ line) :
    ∃ g, readLine v line = .error g ∧ ∀ n, g.atLine n = .located n f := by
  cases h with
  | notKeyValue hs hsign =>
    refine ⟨.notKeyValue, ?_, fun _ => rfl⟩
    rw [readLine_of_not_silent hs, (assignment?_eq_none_iff hs).2 hsign]
  | badName ha hname => exact ⟨_, readLine_of_badName ha hname, fun _ => rfl⟩
  | @badValue key value g ha hname hg =>
    refine ⟨g, ?_, ?_⟩
    · rw [readLine_of_isName ha hname, hg]
      rfl
    · intro n
      -- a value stands on one line, so its fault is on the first line of the value
      obtain ⟨before, hbefore, hplaced⟩ := Template.exists_prefix_of_parse hg
      have hzero : Text.newlines before = 0 := by
        rw [Text.newlines, List.count_eq_zero]
        exact fun hmem => not_mem_value hline ha (hbefore.subset hmem)
      calc g.atLine n = (Fault.located (1 + 0) g.root).atLine n := by rw [← hzero, ← hplaced]
        _ = .located n g.root := by rw [Fault.atLine_located, Nat.add_zero, Nat.add_sub_cancel]

/-! ## 3. Line after line -/

/-- Good lines are stored one after the other. -/
theorem readLines_of_ok {ls : List Text} (h : ∀ line ∈ ls, LineOk v line) (n : Nat)
    (m : OrderedMap Text Template) :
    readLines v n m ls = .ok (m.insertAll
      ((ls.filterMap assignment?).map fun a => (a.1, Template.read v a.2))) := by
  induction ls generalizing n m with
  | nil => rfl
  | cons line ls ih =>
    obtain ⟨hline, hls⟩ := List.forall_mem_cons.1 h
    rw [readLines, readLine_of_ok hline]
    cases ha : assignment? line with
    | none =>
      rw [List.filterMap_cons_none ha]
      exact ih hls (n + 1) m
    | some a =>
      rw [List.filterMap_cons_some ha]
      exact ih hls (n + 1) _

/-- The first bad line decides, with its number. -/
theorem readLines_of_error {before after : List Text} (hbefore : ∀ l ∈ before, LineOk v l)
    (hline : readLine v line = .error f) (n : Nat) (m : OrderedMap Text Template) :
    readLines v n m (before ++ line :: after) = .error (f.atLine (n + before.length)) := by
  induction before generalizing n m with
  | nil =>
    rw [List.nil_append, readLines, hline]
    rfl
  | cons l before ih =>
    obtain ⟨hl, hbefore⟩ := List.forall_mem_cons.1 hbefore
    have hlen : n + 1 + before.length = n + (l :: before).length := by
      rw [List.length_cons]; omega
    rw [List.cons_append, readLines, readLine_of_ok hl, ← hlen]
    cases assignment? l <;> exact ih hbefore (n + 1) _

theorem parseLines_of_ok {s : Text} (h : ∀ line ∈ Text.lines s, LineOk v line) :
    parseLines v s =
      .ok ⟨.lines, (OrderedMap.ofList (assignments s)).mapValues (Template.read v)⟩ := by
  rw [parseLines, readLines_of_ok h, ← OrderedMap.ofList_map]
  rfl

theorem parseLines_of_fault {s : Text} {before after : List Text}
    (hs : Text.lines s = before ++ line :: after) (hbefore : ∀ l ∈ before, LineOk v l)
    (h : LineFault v line f) : parseLines v s = .error (.located (before.length + 1) f) := by
  have hline : '\n' ∉ line := Text.not_mem_of_lines (Text.lines_lines s) line (by simp [hs])
  obtain ⟨g, hg, hplaced⟩ := readLine_of_fault h hline
  rw [parseLines, hs, readLines_of_error hbefore hg, hplaced, Nat.add_comm]

/-- Either all lines are good, or there is a first bad one. -/
theorem all_lineOk_or_fault (v : Version) (ls : List Text) :
    (∀ line ∈ ls, LineOk v line) ∨ ∃ before line after f, ls = before ++ line :: after ∧
      (∀ l ∈ before, LineOk v l) ∧ LineFault v line f := by
  induction ls with
  | nil => exact .inl (by simp)
  | cons l ls ih =>
    rcases lineOk_or_lineFault v l with hl | ⟨f, hf⟩
    · rcases ih with h | ⟨before, line, after, f, rfl, hbefore, hf⟩
      · exact .inl (List.forall_mem_cons.2 ⟨hl, h⟩)
      · exact .inr ⟨l :: before, line, after, f, rfl, List.forall_mem_cons.2 ⟨hl, hbefore⟩, hf⟩
    · exact .inr ⟨[], l, ls, f, rfl, by simp, hf⟩

/-- A file is read line by line exactly if all lines are good, and it holds the entries of these
lines. -/
theorem parseLines_eq_ok_iff {s : Text} {file : EnvFile} :
    parseLines v s = .ok file ↔ (∀ line ∈ Text.lines s, LineOk v line) ∧
      file = ⟨.lines, (OrderedMap.ofList (assignments s)).mapValues (Template.read v)⟩ := by
  rcases all_lineOk_or_fault v (Text.lines s) with h | ⟨before, line, after, f, hs, hbefore, hf⟩
  · rw [parseLines_of_ok h, Except.ok.injEq]
    exact ⟨fun he => ⟨h, he.symm⟩, fun he => he.2.symm⟩
  · have herror := parseLines_of_fault hs hbefore hf
    rw [herror]
    constructor
    · intro he
      cases he
    · rintro ⟨h, -⟩
      cases herror.symm.trans (parseLines_of_ok h)

/-- A file is refused line by line exactly for its first bad line, whose number is told. -/
theorem parseLines_eq_error_iff {s : Text} :
    parseLines v s = .error f ↔ ∃ before line after g, Text.lines s = before ++ line :: after ∧
      (∀ l ∈ before, LineOk v l) ∧ LineFault v line g ∧ f = .located (before.length + 1) g := by
  constructor
  · intro h
    rcases all_lineOk_or_fault v (Text.lines s) with hok | ⟨before, line, after, g, hs, hbefore, hg⟩
    · cases h.symm.trans (parseLines_of_ok hok)
    · have herror := parseLines_of_fault hs hbefore hg
      exact ⟨before, line, after, g, hs, hbefore, hg, Except.error.inj (h.symm.trans herror)⟩
  · rintro ⟨before, line, after, g, hs, hbefore, hg, rfl⟩
    exact parseLines_of_fault hs hbefore hg

/-- The value of an assignment in a file of good lines is a template. -/
theorem exists_parse_of_mem {s : Text} (hok : ∀ line ∈ Text.lines s, LineOk v line)
    (h : (key, value) ∈ assignments s) : ∃ t, Template.parse v value = .ok t := by
  obtain ⟨line, hline, ha⟩ := List.mem_filterMap.1 h
  cases hok line hline with
  | silent hs =>
    rw [silent_of_assignment? ha] at hs
    cases hs
  | entry ha' _ ht =>
    obtain ⟨-, rfl⟩ := Prod.mk.inj (Option.some.inj (ha.symm.trans ha'))
    exact ⟨_, ht⟩

theorem get?_entries {s : Text} {file : EnvFile} (h : parseLines v s = .ok file) (key : Text) :
    file.entries.get? key = (Entries.last? key (assignments s)).map (Template.read v) := by
  obtain ⟨-, rfl⟩ := parseLines_eq_ok_iff.1 h
  rw [OrderedMap.get?_mapValues, OrderedMap.get?_ofList]

theorem exists_parse_of_last? {s : Text} {file : EnvFile} (h : parseLines v s = .ok file)
    (hlast : Entries.last? key (assignments s) = some value) :
    ∃ t, Template.parse v value = .ok t ∧ file.entries.get? key = some t := by
  obtain ⟨hok, -⟩ := parseLines_eq_ok_iff.1 h
  obtain ⟨t, ht⟩ := exists_parse_of_mem hok (Entries.mem_of_last? hlast)
  refine ⟨t, ht, ?_⟩
  rw [get?_entries h, hlast, Option.map_some, Template.read_eq ht]

theorem LineFault.root_eq (h : LineFault v line f) : f.root = f := by
  cases h with
  | notKeyValue => rfl
  | badName => rfl
  | badValue => exact Fault.root_root _

/-! ## 4. Both ways of writing -/

theorem parse_of_parseLines {s : Text} {file : EnvFile} (h : parseLines v s = .ok file) :
    parse v s = .ok file := by
  rw [parse, h]

/-- What cannot be read line by line is tried as a document. -/
theorem parse_of_parseLines_error {s : Text} (h : parseLines v s = .error f) :
    parse v s = match parseYaml v s with
      | .ok file => .ok file
      | .error _ => .error f := by
  unfold parse
  cases parseYaml v s with
  | ok file => simp only [h]
  | error g => simp only [h]

/-- A file that is read in neither way has the fault of its lines. -/
theorem parseLines_of_parse_error {s : Text} (h : parse v s = .error f) :
    parseLines v s = .error f := by
  cases hl : parseLines v s with
  | ok file => cases h.symm.trans (parse_of_parseLines hl)
  | error g =>
    -- the fault of the document is dropped, whatever it is
    rw [parse_of_parseLines_error hl] at h
    cases hyaml : parseYaml v s with
    | ok file => simp only [hyaml] at h; cases h
    | error g' =>
      simp only [hyaml] at h
      rw [Except.error.inj h]

theorem exists_line_of_parse_error {s : Text} (h : parse v s = .error f) :
    ∃ n, f = .located n f.root ∧ 1 ≤ n ∧ n ≤ (Text.lines s).length := by
  obtain ⟨before, line, after, g, hs, -, hg, rfl⟩ :=
    parseLines_eq_error_iff.1 (parseLines_of_parse_error h)
  refine ⟨before.length + 1, ?_, by omega, ?_⟩
  · rw [Fault.root, hg.root_eq]
  · have hlen : (Text.lines s).length = before.length + (after.length + 1) := by
      rw [hs, List.length_append, List.length_cons]
    omega

/-- How an env file is read. Read line by line, it is accepted when each line is silent or gives an
identifier and a template. It then has each key once, in order of first lines, with the template of
the last line. Otherwise the first line that is not in order is at fault, for the first thing that
is wrong with it, and its number is the only place of the fault. What cannot be read line by line
may be a document, but a fault is always one of a line. -/
theorem parse_lines (v : Version) (s : Text) :
    Text.Lines s (Text.lines s) ∧
    ((∃ file, parseLines v s = .ok file) ↔ ∀ line ∈ Text.lines s, LineOk v line) ∧
    (∀ file, parseLines v s = .ok file → file.format = .lines ∧
      file.entries.keys = distinct (Entries.keys (assignments s)) ∧
      ∀ key value, Entries.last? key (assignments s) = some value →
        ∃ t, Template.parse v value = .ok t ∧ file.entries.get? key = some t) ∧
    (∀ f, parseLines v s = .error f ↔
      ∃ before line after g, Text.lines s = before ++ line :: after ∧
        (∀ l ∈ before, LineOk v l) ∧ LineFault v line g ∧ f = .located (before.length + 1) g) ∧
    (∀ file, parseLines v s = .ok file → parse v s = .ok file) ∧
    (∀ f file, parseLines v s = .error f → parseYaml v s = .ok file → parse v s = .ok file) ∧
    (∀ f g, parseLines v s = .error f → parseYaml v s = .error g → parse v s = .error f) ∧
    ∀ f, parse v s = .error f →
      (∃ n, f = .located n f.root ∧ 1 ≤ n ∧ n ≤ (Text.lines s).length) ∧
        ∀ line reason, f.root ≠ .malformedDocument line reason := by
  refine ⟨Text.lines_lines s, ?_, ?_, ?_, ?_, ?_, ?_, ?_⟩
  · constructor
    · rintro ⟨file, h⟩
      exact (parseLines_eq_ok_iff.1 h).1
    · intro h
      exact ⟨_, parseLines_of_ok h⟩
  · intro file h
    obtain ⟨-, rfl⟩ := parseLines_eq_ok_iff.1 h
    refine ⟨rfl, ?_, fun key value hlast => exists_parse_of_last? h hlast⟩
    rw [OrderedMap.keys_mapValues, OrderedMap.keys_ofList]
  · intro f
    exact parseLines_eq_error_iff
  · intro file h
    exact parse_of_parseLines h
  · intro f file h hyaml
    rw [parse_of_parseLines_error h, hyaml]
  · intro f g h hyaml
    rw [parse_of_parseLines_error h, hyaml]
  · intro f h
    refine ⟨exists_line_of_parse_error h, ?_⟩
    intro line reason hroot
    -- no fault of a line is one of a document
    have hsyntax := ofSyntax_of_parseFile h
    rw [hroot] at hsyntax
    cases hsyntax

-- the comment and the second `A` are in order, the fourth line has no equals sign
example : parseLines .v2 "A=1\r\n# note\n A = 2 \nB\n".toList = .error (.located 4 .notKeyValue) := by
  cbv

end EnvFile

end SecretWeave
