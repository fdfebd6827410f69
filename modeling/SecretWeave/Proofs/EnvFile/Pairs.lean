import SecretWeave.Proofs.EnvFile.Lines
import SecretWeave.Proofs.Yaml.Keys

/-!
# Env files that are documents

A document is read pair by pair, and the entries of an env file are the pairs in their order. Keys that
are different values may still stand for the same name: a truth value and the text that spells it. Two
such pairs are stored as lines with the same key are, at the place of the first and with the value of
the last; no other pairs are (`parseYaml_entries`).
-/

namespace SecretWeave

/-- Entries whose keys differ are stored as they are. -/
theorem OrderedMap.entries_ofList {α β : Type} [DecidableEq α] {es : List (α × β)}
    (h : (Entries.keys es).Nodup) : (ofList es).entries = es := by
  have hsame : ofList es = ⟨es, h⟩ := by
    apply ext_get?
    · rw [keys_ofList]
      exact distinct_of_nodup h
    · intro k
      rw [get?_ofList]
      exact Entries.last?_eq_find? h k
  rw [hsame]

namespace EnvFile

variable {v : Version} {s name : Text} {file : EnvFile} {k l : Yaml.Value}
  {pair : Yaml.Value × Yaml.Value} {pairs : List (Yaml.Value × Yaml.Value)} {entry : Text × Template}
  {read : List (Text × Template)}

/-! ## 1. Keys with one name -/

def wordOf (b : Bool) : Text :=
  if b then "true".toList else "false".toList

/-- A truth value and the text that spells it: different values that stand for the same name. -/
inductive Clash : Yaml.Value → Yaml.Value → Prop where
  | wordLast (b : Bool) : Clash (.bool b) (.string (wordOf b))
  | wordFirst (b : Bool) : Clash (.string (wordOf b)) (.bool b)

theorem Clash.scalarText?_eq (h : Clash k l) : scalarText? k = scalarText? l := by
  cases h <;> rfl

/-- A scalar that stands for an identifier is a truth value or a text. -/
theorem bool_or_string_of_isName (hk : scalarText? k = some name) (hname : Text.isName name = true) :
    (∃ b, k = .bool b ∧ name = wordOf b) ∨ k = .string name := by
  cases k with
  | null =>
    obtain rfl := Option.some.inj hk
    cases hname
  | bool b => exact .inl ⟨b, rfl, (Option.some.inj hk).symm⟩
  | number n =>
    obtain rfl := Option.some.inj hk
    rw [Yaml.isName_text] at hname
    cases hname
  | string t => exact .inr (congrArg Yaml.Value.string (Option.some.inj hk))
  | sequence vs => cases hk
  | mapping es => cases hk
  | tagged t w => cases hk

/-- Different values stand for the same identifier only if they clash. -/
theorem clash_of_scalarText? (hk : scalarText? k = some name) (hl : scalarText? l = some name)
    (hname : Text.isName name = true) (hdiffer : k.same l = false) : Clash k l := by
  rcases bool_or_string_of_isName hk hname with ⟨a, rfl, rfl⟩ | rfl
  · rcases bool_or_string_of_isName hl hname with ⟨b, rfl, hword⟩ | rfl
    · -- two truth values with one text are one
      have hab : a = b := by
        cases a <;> cases b <;> first | rfl | exact absurd hword (by decide)
      simp [Yaml.Value.same, hab] at hdiffer
    · exact .wordLast a
  · rcases bool_or_string_of_isName hl hname with ⟨b, rfl, rfl⟩ | rfl
    · exact .wordFirst b
    · simp [Yaml.Value.same] at hdiffer

/-! ## 2. Reading pairs -/

def pairsOf? : Yaml.Value → Option (List (Yaml.Value × Yaml.Value))
  | .mapping pairs => some pairs
  | .null => some []
  | _ => none

def documentPairs? (s : Text) : Option (List (Yaml.Value × Yaml.Value)) :=
  (Yaml.load s).toOption.bind pairsOf?

/-- A pair gives an entry: the key's text is an identifier, and the value's text is read as a
template. -/
def Gives (v : Version) (pair : Yaml.Value × Yaml.Value) (entry : Text × Template) : Prop :=
  scalarText? pair.1 = some entry.1 ∧ Text.isName entry.1 = true ∧
    ∃ value, scalarText? pair.2 = some value ∧ Template.parse v value = .ok entry.2

/-- A pair is read exactly if it gives an entry, and then as that entry. -/
theorem readPair_eq_ok_iff : readPair v pair = .ok entry ↔ Gives v pair entry := by
  obtain ⟨key, t⟩ := entry
  unfold readPair Gives
  cases hkey : scalarText? pair.1 with
  | none => simp
  | some key' =>
    cases hname : Text.isName key' with
    | false =>
      simp only [checkName, hname, Bool.false_eq_true, if_false, reduceCtorEq, Option.some.injEq,
        false_iff, not_and]
      rintro rfl hname'
      cases hname.symm.trans hname'
    | true =>
      simp only [checkName, hname, if_true, Option.some.injEq]
      cases hvalue : scalarText? pair.2 with
      | none => simp
      | some value =>
        cases hparse : Template.parse v value with
        | error f => simp [hparse]
        | ok t' =>
          simp only [Except.ok.injEq, Prod.mk.injEq, Option.some.injEq, exists_eq_left', hparse]
          constructor
          · rintro ⟨rfl, rfl⟩
            exact ⟨rfl, hname, rfl⟩
          · rintro ⟨rfl, -, rfl⟩
            exact ⟨rfl, rfl⟩

/-- Pairs are read exactly if each gives an entry, and then these entries are stored in order. -/
theorem readPairs_eq_ok_iff {m n : OrderedMap Text Template} :
    readPairs v m pairs = .ok n ↔
      ∃ read, List.Forall₂ (Gives v) pairs read ∧ n = m.insertAll read := by
  induction pairs generalizing m with
  | nil =>
    simp only [readPairs, Except.ok.injEq, List.forall₂_nil_left_iff, exists_eq_left]
    exact eq_comm
  | cons pair pairs ih =>
    rw [readPairs]
    cases hpair : readPair v pair with
    | error f =>
      simp only [reduceCtorEq, false_iff, not_exists, not_and]
      intro read hread
      -- the first pair gives nothing
      cases hread with
      | cons hgives _ => cases hpair.symm.trans (readPair_eq_ok_iff.2 hgives)
    | ok entry =>
      dsimp only
      rw [ih]
      constructor
      · rintro ⟨read, hread, rfl⟩
        exact ⟨entry :: read, .cons (readPair_eq_ok_iff.1 hpair) hread, rfl⟩
      · rintro ⟨_, hread, rfl⟩
        cases hread with
        | @cons _ entry' _ read hgives hrest =>
          obtain rfl := Except.ok.inj (hpair.symm.trans (readPair_eq_ok_iff.2 hgives))
          exact ⟨read, hrest, rfl⟩

/-- A value is a file exactly if it is a flat mapping, each pair of which gives an entry. -/
theorem ofValue_eq_ok_iff {value : Yaml.Value} {m : OrderedMap Text Template} :
    ofValue v value = .ok m ↔ ∃ pairs read, pairsOf? value = some pairs ∧
      List.Forall₂ (Gives v) pairs read ∧ m = .ofList read := by
  cases value with
  | mapping pairs =>
    simp only [pairsOf?, Option.some.injEq, exists_and_left, exists_eq_left']
    exact readPairs_eq_ok_iff
  | null =>
    simp only [pairsOf?, Option.some.injEq, exists_and_left, exists_eq_left', ofValue, Except.ok.injEq,
      List.forall₂_nil_left_iff, exists_eq_left]
    exact eq_comm
  | _ => simp [ofValue, pairsOf?]

/-- A text is read as a document exactly if its pairs all give entries. -/
theorem parseYaml_eq_ok_iff :
    parseYaml v s = .ok file ↔ ∃ pairs read, documentPairs? s = some pairs ∧
      List.Forall₂ (Gives v) pairs read ∧ file = ⟨.yaml, .ofList read⟩ := by
  unfold parseYaml documentPairs?
  cases hload : Yaml.load s with
  | error flaw => simp [Except.toOption]
  | ok value =>
    simp only [Except.toOption, Option.bind_some]
    constructor
    · intro h
      split at h
      · cases h
      · rename_i m hm
        obtain rfl := Except.ok.inj h
        obtain ⟨pairs, read, hpairs, hread, rfl⟩ := ofValue_eq_ok_iff.1 hm
        exact ⟨pairs, read, hpairs, hread, rfl⟩
    · rintro ⟨pairs, read, hpairs, hread, rfl⟩
      rw [ofValue_eq_ok_iff.2 ⟨pairs, read, hpairs, hread, rfl⟩]

/-- The keys of a document differ as values, since equal ones are refused while it is built. -/
theorem keysDiffer_of_documentPairs? (h : documentPairs? s = some pairs) : Yaml.KeysDiffer pairs := by
  obtain ⟨value, hload, hpairs⟩ := Option.bind_eq_some_iff.1 h
  have hvalue : Yaml.load s = .ok value := by
    cases hs : Yaml.load s with
    | ok w =>
      rw [hs] at hload
      rw [Option.some.inj hload]
    | error flaw =>
      rw [hs] at hload
      cases hload
  cases value with
  | mapping pairs' =>
    obtain rfl := Option.some.inj hpairs
    exact Yaml.keysDiffer_of_load hvalue
  | null =>
    obtain rfl := Option.some.inj hpairs
    exact .nil
  | _ => cases hpairs

/-! ## 3. Entries and pairs -/

theorem keyTexts_eq (h : List.Forall₂ (Gives v) pairs read) :
    pairs.map (fun p => scalarText? p.1) = (Entries.keys read).map some := by
  induction h with
  | nil => rfl
  | cons hgives _ ih => rw [List.map_cons, Entries.keys_cons, List.map_cons, ih, hgives.1]

theorem isName_of_gives (h : List.Forall₂ (Gives v) pairs read) {p : Yaml.Value × Yaml.Value}
    (hp : p ∈ pairs) : ∃ name, scalarText? p.1 = some name ∧ Text.isName name = true := by
  induction h with
  | nil => cases hp
  | @cons _ entry _ _ hgives _ ih =>
    rcases List.mem_cons.1 hp with rfl | hp
    · exact ⟨entry.1, hgives.1, hgives.2.1⟩
    · exact ih hp

/-- In a document that was read, keys with the same text clash. -/
theorem clash_of_gives (hdiffer : Yaml.KeysDiffer pairs) (h : List.Forall₂ (Gives v) pairs read) :
    pairs.Pairwise fun p q => scalarText? p.1 = scalarText? q.1 → Clash p.1 q.1 := by
  refine hdiffer.imp_of_mem ?_
  intro p q hp _ hpq hsame
  obtain ⟨name, hname, hid⟩ := isName_of_gives h hp
  exact clash_of_scalarText? hname (hsame.symm.trans hname) hid hpq

/-- The names of the entries differ exactly if no two keys clash. -/
theorem nodup_keys_iff (hdiffer : Yaml.KeysDiffer pairs) (h : List.Forall₂ (Gives v) pairs read) :
    (Entries.keys read).Nodup ↔ pairs.Pairwise fun p q => ¬ Clash p.1 q.1 := by
  have hnodup : (Entries.keys read).Nodup ↔
      pairs.Pairwise fun p q => scalarText? p.1 ≠ scalarText? q.1 := by
    rw [← List.pairwise_map, keyTexts_eq h, List.pairwise_map]
    simp only [ne_eq, Option.some.injEq]
    exact Iff.rfl
  rw [hnodup]
  constructor
  · intro hne
    exact hne.imp fun hpq hclash => hpq hclash.scalarText?_eq
  · intro hclash
    exact (hclash.and (clash_of_gives hdiffer h)).imp fun hpq hsame => hpq.1 (hpq.2 hsame)

/-- A document is read if every pair gives an entry: under the text of its key, with the template of
its own value. The env file has exactly these entries, in the order of the pairs, if no truth value is
a key together with the text that spells it. Two such keys share an entry, at the place of the first
and with the template of the last; any other two keys with the same text are refused. -/
theorem parseYaml_entries (v : Version) (s : Text) (file : EnvFile) :
    parseYaml v s = .ok file ↔
      ∃ pairs read, documentPairs? s = some pairs ∧ List.Forall₂ (Gives v) pairs read ∧
        file.format = .yaml ∧
        ((pairs.Pairwise fun p q => ¬ Clash p.1 q.1) ↔ file.entries.entries = read) ∧
        (pairs.Pairwise fun p q => scalarText? p.1 = scalarText? q.1 → Clash p.1 q.1) ∧
        file.entries.keys = distinct (Entries.keys read) ∧
        ∀ name, file.entries.get? name = Entries.last? name read := by
  constructor
  · intro h
    obtain ⟨pairs, read, hpairs, hread, rfl⟩ := parseYaml_eq_ok_iff.1 h
    have hdiffer := keysDiffer_of_documentPairs? hpairs
    refine ⟨pairs, read, hpairs, hread, rfl, ?_, clash_of_gives hdiffer hread,
      OrderedMap.keys_ofList read, OrderedMap.get?_ofList read⟩
    rw [← nodup_keys_iff hdiffer hread]
    constructor
    · intro hnodup
      exact OrderedMap.entries_ofList hnodup
    · intro hentries
      have hkeys := (OrderedMap.ofList read).nodup
      rwa [hentries] at hkeys
  · rintro ⟨pairs, read, hpairs, hread, hformat, -, -, hkeys, hget⟩
    -- keys and look-ups make the map
    have hentries : file.entries = .ofList read := by
      apply OrderedMap.ext_get?
      · rw [hkeys, OrderedMap.keys_ofList]
      · intro name
        rw [hget, OrderedMap.get?_ofList]
    obtain ⟨format, entries⟩ := file
    obtain rfl : format = .yaml := hformat
    obtain rfl : entries = .ofList read := hentries
    exact parseYaml_eq_ok_iff.2 ⟨pairs, read, hpairs, hread, rfl⟩

def bothWords : Text := "true: 1\n\"true\": 2".toList

/-- The pairs of a truth value and the text that spells it come to one entry. -/
theorem parseYaml_bothWords :
    ((documentPairs? bothWords).map List.length = some 2) ∧
      ∃ file, parseYaml .v2 bothWords = .ok file ∧
        file.entries.entries = [("true".toList, ⟨[.literal "2".toList]⟩)] ∧
        ¬ ∃ pairs, documentPairs? bothWords = some pairs ∧
          List.Forall₂ (Gives .v2) pairs file.entries.entries := by
  have hpairs : (documentPairs? bothWords).map List.length = some 2 := by decide +kernel
  obtain ⟨file, hparse, hentries⟩ : ∃ file, parseYaml .v2 bothWords = .ok file ∧
      file.entries.entries = [("true".toList, ⟨[.literal "2".toList]⟩)] :=
    exists_ok_of_toOption (by decide +kernel)
  refine ⟨hpairs, file, hparse, hentries, ?_⟩
  rintro ⟨pairs, hdoc, hgives⟩
  -- two pairs, one entry
  rw [hdoc] at hpairs
  have hlength := hgives.length_eq
  rw [Option.some.inj hpairs, hentries] at hlength
  cases hlength

end EnvFile

end SecretWeave
