import SecretWeave.Proofs.EnvFile.Lines

/-!
# Env files value by value

All the paths of an env file are fetched in one pass. Still, a file that is read line by line comes
to the same as its values when each of them is injected by itself, as long as only the last line of
each key counts (`injectFile_values`).
-/

namespace SecretWeave

namespace EnvFile

variable {v : Version} {vars : Bindings} {look : Lookup} {s value : Text} {file : EnvFile}

/-! ## 1. Templates and values -/

theorem exists_last?_of_mem (h : parseLines v s = .ok file) {t : Template}
    (ht : t ∈ file.entries.values) :
    ∃ key value, Entries.last? key (assignments s) = some value ∧ Template.parse v value = .ok t := by
  obtain ⟨key, hkey⟩ := OrderedMap.mem_values_iff.1 ht
  obtain ⟨value, hlast, -⟩ := Option.map_eq_some_iff.1 ((get?_entries h key).symm.trans hkey)
  obtain ⟨t', ht', hget⟩ := exists_parse_of_last? h hlast
  obtain rfl := Option.some.inj (hget.symm.trans hkey)
  exact ⟨key, value, hlast, ht'⟩

/-! ## 2. One file, many values -/

/-- Either some value cannot be filled, or the file and all its values are asked for. -/
theorem filled_or_not (h : parseLines v s = .ok file) (vars : Bindings) (look : Lookup) :
    (∃ e key value, Entries.last? key (assignments s) = some value ∧
      injectFile v vars look s = ⟨[], .error e⟩ ∧
        SecretWeave.inject v vars look value = ⟨[], .error e⟩) ∨
    injectFile v vars look s = look.ask (file.demand vars) (file.rendered vars look.value) ∧
      ∀ value t, Template.parse v value = .ok t → t ∈ file.entries.values →
        SecretWeave.inject v vars look value =
          look.ask (t.demand vars) (t.rendered vars look.value) := by
  have hparse := parse_of_parseLines h
  cases hi : file.inject vars with
  | error f =>
    -- the template that is at fault is that of some value, which then has the same fault
    obtain ⟨t, ht, hti⟩ := fault_of_inject hi
    obtain ⟨key, value, hlast, hp⟩ := exists_last?_of_mem h ht
    exact .inl ⟨_, key, value, hlast, injectFile_of_inject_error hparse hi,
      Template.inject_of_inject_error hp hti⟩
  | ok file' =>
    refine .inr ⟨injectFile_eq_ask hparse hi, ?_⟩
    intro value t hp ht
    obtain ⟨t', hti⟩ := exists_inject_of_mem hi ht
    exact Template.inject_eq_ask hp hti

theorem exists_reaches_of_demand {p : Text} (h : look.Reaches (file.demand vars) p) :
    ∃ t ∈ file.entries.values, look.Reaches (t.demand vars) p := by
  -- repetitions do not matter to what is reached, in the file as in the template
  obtain ⟨t, ht, hreach⟩ := exists_reaches_of_flatMap (reaches_distinct_iff.1 h)
  exact ⟨t, ht, reaches_distinct_iff.2 hreach⟩

/-- What fails in a file fails in one of the values that survive. -/
theorem exists_value_of_error (h : parseLines v s = .ok file) {e : Failure}
    (he : (injectFile v vars look s).outcome = .error e) :
    ∃ key value, Entries.last? key (assignments s) = some value ∧
      (SecretWeave.inject v vars look value).outcome = .error e := by
  rcases filled_or_not h vars look with ⟨e', key, value, hlast, hfile, hvalue⟩ | ⟨hfile, hvalues⟩
  · rw [hfile] at he
    obtain rfl := Except.error.inj he
    exact ⟨key, value, hlast, by rw [hvalue]⟩
  · -- the path that is refused is asked for one of the values, and is refused there
    rw [hfile, outcome_ask_eq_error_iff, refusedAt_iff_reaches] at he
    obtain ⟨p, hreach, hp⟩ := he
    obtain ⟨t, ht, hreach⟩ := exists_reaches_of_demand hreach
    obtain ⟨key, value, hlast, hparse⟩ := exists_last?_of_mem h ht
    refine ⟨key, value, hlast, ?_⟩
    rw [hvalues value t hparse ht, outcome_ask_eq_error_iff, refusedAt_iff_reaches]
    exact ⟨p, hreach, hp⟩

/-- What a file asks for is asked for by one of the values that survive. -/
theorem exists_value_of_asked (h : parseLines v s = .ok file) {p : Text}
    (hp : p ∈ (injectFile v vars look s).asked) :
    ∃ key value, Entries.last? key (assignments s) = some value ∧
      p ∈ (SecretWeave.inject v vars look value).asked := by
  rcases filled_or_not h vars look with ⟨e, key, value, hlast, hfile, -⟩ | ⟨hfile, hvalues⟩
  · rw [hfile] at hp
    cases hp
  · rw [hfile, mem_asked_ask_iff] at hp
    obtain ⟨t, ht, hreach⟩ := exists_reaches_of_demand hp
    obtain ⟨key, value, hlast, hparse⟩ := exists_last?_of_mem h ht
    refine ⟨key, value, hlast, ?_⟩
    rw [hvalues value t hparse ht, mem_asked_ask_iff]
    exact hreach

/-- A key of the result has what its surviving value is injected to. -/
theorem get?_of_outcome (h : parseLines v s = .ok file) {m : OrderedMap Text Text}
    (hm : (injectFile v vars look s).outcome = .ok m) {key : Text}
    (hlast : Entries.last? key (assignments s) = some value) :
    ∃ out, (SecretWeave.inject v vars look value).outcome = .ok out ∧ m.get? key = some out := by
  rcases filled_or_not h vars look with ⟨e, -, -, -, hfile, -⟩ | ⟨hfile, hvalues⟩
  · rw [hfile] at hm
    cases hm
  · -- the paths of one value are among those of the whole file
    rw [hfile, outcome_ask_eq_ok_iff] at hm
    obtain ⟨hhas, rfl⟩ := hm
    obtain ⟨t, hparse, hget⟩ := exists_parse_of_last? h hlast
    have ht : t ∈ file.entries.values := OrderedMap.mem_values_iff.2 ⟨key, hget⟩
    refine ⟨t.rendered vars look.value, ?_, ?_⟩
    · rw [hvalues value t hparse ht, outcome_ask_eq_ok_iff]
      refine ⟨?_, rfl⟩
      intro p hp
      apply hhas p
      rw [demand, mem_distinct]
      exact List.mem_flatMap.2 ⟨t, ht, mem_distinct.1 hp⟩
    · rw [rendered, OrderedMap.get?_mapValues, hget]
      rfl

theorem keys_of_outcome (h : parseLines v s = .ok file) {m : OrderedMap Text Text}
    (hm : (injectFile v vars look s).outcome = .ok m) : m.keys = file.entries.keys := by
  rcases filled_or_not h vars look with ⟨e, -, -, -, hfile, -⟩ | ⟨hfile, -⟩
  · rw [hfile] at hm
    cases hm
  · rw [hfile, outcome_ask_eq_ok_iff] at hm
    obtain ⟨-, rfl⟩ := hm
    exact OrderedMap.keys_mapValues _ _

/-! ## 3. Lines that are overridden -/

/-- Files whose keys and surviving values agree are the same. -/
theorem parseLines_unique {s' : Text} {file' : EnvFile} (h : parseLines v s = .ok file)
    (h' : parseLines v s' = .ok file')
    (hkeys : distinct (Entries.keys (assignments s')) = distinct (Entries.keys (assignments s)))
    (hlast : ∀ key, Entries.last? key (assignments s') = Entries.last? key (assignments s)) :
    file' = file := by
  have hmap : OrderedMap.ofList (assignments s') = OrderedMap.ofList (assignments s) := by
    apply OrderedMap.ext_get?
    · rw [OrderedMap.keys_ofList, OrderedMap.keys_ofList, hkeys]
    · intro key
      rw [OrderedMap.get?_ofList, OrderedMap.get?_ofList, hlast]
  obtain ⟨-, rfl⟩ := parseLines_eq_ok_iff.1 h
  obtain ⟨-, rfl⟩ := parseLines_eq_ok_iff.1 h'
  rw [hmap]

/-- A file that is read line by line and its values agree, where a value is what stands on the last
line of its key. The file is injected exactly when every value is, each key then has what its value
gives, and the keys keep their order. What a file fails with, one of its values fails with, and what
it asks for, one of its values asks for. Lines that are overridden later have no part in any of
this. -/
theorem injectFile_values (h : parseLines v s = .ok file) (vars : Bindings) (look : Lookup) :
    ((∃ m, (injectFile v vars look s).outcome = .ok m) ↔
      ∀ key value, Entries.last? key (assignments s) = some value →
        ∃ out, (SecretWeave.inject v vars look value).outcome = .ok out) ∧
    (∀ m, (injectFile v vars look s).outcome = .ok m → m.keys = file.entries.keys ∧
      ∀ key value, Entries.last? key (assignments s) = some value →
        ∃ out, (SecretWeave.inject v vars look value).outcome = .ok out ∧ m.get? key = some out) ∧
    (∀ e, (injectFile v vars look s).outcome = .error e →
      ∃ key value, Entries.last? key (assignments s) = some value ∧
        (SecretWeave.inject v vars look value).outcome = .error e) ∧
    (∀ p ∈ (injectFile v vars look s).asked,
      ∃ key value, Entries.last? key (assignments s) = some value ∧
        p ∈ (SecretWeave.inject v vars look value).asked) ∧
    ∀ s' file', parseLines v s' = .ok file' →
      distinct (Entries.keys (assignments s')) = distinct (Entries.keys (assignments s)) →
      (∀ key, Entries.last? key (assignments s') = Entries.last? key (assignments s)) →
      injectFile v vars look s' = injectFile v vars look s := by
  refine ⟨⟨?_, ?_⟩, ?_, ?_, ?_, ?_⟩
  · rintro ⟨m, hm⟩ key value hlast
    obtain ⟨out, hout, -⟩ := get?_of_outcome h hm hlast
    exact ⟨out, hout⟩
  · intro hall
    cases hfile : (injectFile v vars look s).outcome with
    | ok m => exact ⟨m, rfl⟩
    | error e =>
      -- some value would fail as well
      obtain ⟨key, value, hlast, hvalue⟩ := exists_value_of_error h hfile
      obtain ⟨out, hout⟩ := hall key value hlast
      cases hvalue.symm.trans hout
  · intro m hm
    exact ⟨keys_of_outcome h hm, fun key value hlast => get?_of_outcome h hm hlast⟩
  · intro e he
    exact exists_value_of_error h he
  · intro p hp
    exact exists_value_of_asked h hp
  · intro s' file' h' hkeys hlast
    obtain rfl := parseLines_unique h h' hkeys hlast
    rw [injectFile, injectFile, prepareFile, prepareFile, parse_of_parseLines h,
      parse_of_parseLines h']

theorem exists_ok_of_isOk {ε α : Type} {x : Except ε α} (h : x.isOk = true) : ∃ a, x = .ok a := by
  cases x with
  | ok a => exact ⟨a, rfl⟩
  | error e => cases h

/-- Two values share a secret, and the first line of `A` uses a variable that has no value. -/
theorem injectFile_values_overridden :
    let s := "A=${gone}\nB=<{{ a/b }}>\nA={{ a/b }}".toList
    ∃ file m, parseLines .v2 s = .ok file ∧
      (injectFile .v2 ∅ (fun _ => .ok [0x78]) s).outcome = .ok m ∧ m.keys = file.entries.keys ∧
        m.get? "A".toList = some "x".toList ∧ m.get? "B".toList = some "<x>".toList := by
  intro s
  have hs : s = "A=${gone}\nB=<{{ a/b }}>\nA={{ a/b }}".toList := rfl
  clear_value s
  have hread : (parseLines .v2 s).isOk = true := by rw [hs]; decide +kernel
  have hA : Entries.last? "A".toList (assignments s) = some "{{ a/b }}".toList := by rw [hs]; decide +kernel
  have hB : Entries.last? "B".toList (assignments s) = some "<{{ a/b }}>".toList := by rw [hs]; decide +kernel
  have hdone : (injectFile .v2 ∅ (fun _ => .ok [0x78]) s).outcome.isOk = true := by rw [hs]; decide +kernel
  have houtA : (SecretWeave.inject .v2 ∅ (fun _ => .ok [0x78]) "{{ a/b }}".toList).outcome =
      .ok "x".toList := by decide +kernel
  have houtB : (SecretWeave.inject .v2 ∅ (fun _ => .ok [0x78]) "<{{ a/b }}>".toList).outcome =
      .ok "<x>".toList := by decide +kernel
  obtain ⟨file, hfile⟩ := exists_ok_of_isOk hread
  obtain ⟨m, hm⟩ := exists_ok_of_isOk hdone
  obtain ⟨hkeys, hvalues⟩ := (injectFile_values hfile ∅ fun _ => .ok [0x78]).2.1 m hm
  obtain ⟨a, ha, hmA⟩ := hvalues _ _ hA
  obtain ⟨b, hb, hmB⟩ := hvalues _ _ hB
  obtain rfl := Except.ok.inj (ha.symm.trans houtA)
  obtain rfl := Except.ok.inj (hb.symm.trans houtB)
  exact ⟨file, m, hfile, hm, hkeys, hmA, hmB⟩

end EnvFile

end SecretWeave
