import SecretWeave.Proofs.EnvFile.Pairs

/-!
# Mappings with a misnamed variable

The names of a mapping are checked where a template is filled, before its segments are looked at. So a
mapping with a name that is no identifier is refused for every text. An env file hands the mapping to
its values one by one: it is refused as soon as there is one, in whatever order the entries stand, and
it goes unnoticed in a file that has none (`misnamed_refused`).
-/

namespace SecretWeave

structure Bindings.Misnames (vars : Bindings) (name : Text) : Prop where
  mem : name ∈ vars.keys
  bad : Text.isName name = false
  only : ∀ n ∈ vars.keys, Text.isName n = false → n = name

variable {v : Version} {vars : Bindings} {look : Lookup} {s name : Text} {file : EnvFile}

theorem Bindings.Misnames.badName?_eq (h : vars.Misnames name) : vars.badName? = some name := by
  cases hfind : vars.badName? with
  | none =>
    have hgood := Template.badName?_eq_none_iff.1 hfind name h.mem
    cases h.bad.symm.trans hgood
  | some n =>
    obtain ⟨hn, hbad⟩ := Template.mem_of_badName? hfind
    rw [h.only n hn hbad]

/-! ## 1. Files with entries and without -/

theorem OrderedMap.eq_empty_of_keys {α β : Type} {m : OrderedMap α β} (h : m.keys = []) : m = ∅ :=
  eq_of_entries_eq (List.map_eq_nil_iff.1 h)

/-- What is refused for every value is refused for a map as soon as it has an entry. -/
theorem OrderedMap.traverse_of_forall_error {α β γ ε : Type} [DecidableEq α]
    {f : β → Except ε γ} {e : ε} (h : ∀ b, f b = .error e) (m : OrderedMap α β) :
    m.traverse f = if m.keys = [] then .ok ∅ else .error e := by
  split
  · rename_i hkeys
    rw [eq_empty_of_keys hkeys]
    rfl
  · rename_i hkeys
    rw [traverse_eq_error_iff]
    cases hentries : m.entries with
    | nil => exact absurd (by rw [keys, hentries]; rfl) hkeys
    | cons e es =>
      refine ⟨[], e.2, es.map Prod.snd, ?_, by simp, h e.2⟩
      rw [values, hentries]
      rfl

namespace EnvFile

/-- A single bad name is refused by every file with entries, and by no other. -/
theorem inject_of_misnames (h : vars.Misnames name) (file : EnvFile) :
    file.inject vars = if file.entries.keys = [] then .ok file else .error (.badName name) := by
  have hentries : file.entries.traverse (Template.inject vars) =
      if file.entries.keys = [] then .ok ∅ else .error (.badName name) :=
    OrderedMap.traverse_of_forall_error (Template.inject_of_badName? h.badName?_eq) file.entries
  by_cases hkeys : file.entries.keys = []
  · rw [if_pos hkeys] at hentries
    rw [if_pos hkeys, inject, hentries]
    dsimp only
    rw [← OrderedMap.eq_empty_of_keys hkeys]
  · rw [if_neg hkeys] at hentries
    rw [if_neg hkeys, inject, hentries]

/-- A file of lines has no entries if it has nothing but blank lines and comments. -/
theorem keys_eq_nil_iff_silent (h : parseLines v s = .ok file) :
    file.entries.keys = [] ↔ ∀ line ∈ Text.lines s, silent line = true := by
  obtain ⟨hok, rfl⟩ := parseLines_eq_ok_iff.1 h
  rw [OrderedMap.keys_mapValues, List.eq_nil_iff_forall_not_mem]
  simp only [OrderedMap.mem_keys_ofList]
  constructor
  · intro hkeys line hline
    cases hok line hline with
    | silent hs => exact hs
    | @entry key value t ha _ _ =>
      have hmem : (key, value) ∈ assignments s := List.mem_filterMap.2 ⟨line, hline, ha⟩
      exact absurd (List.mem_map_of_mem hmem) (hkeys key)
  · intro hsilent key hkey
    obtain ⟨⟨k, value⟩, he, -⟩ := List.mem_map.1 hkey
    obtain ⟨line, hline, ha⟩ := List.mem_filterMap.1 he
    cases (silent_of_assignment? ha).symm.trans (hsilent line hline)

/-- A document has no entries if it is empty or an empty mapping. -/
theorem keys_eq_nil_iff_pairs (h : parseYaml v s = .ok file) :
    file.entries.keys = [] ↔ documentPairs? s = some [] := by
  obtain ⟨pairs, read, hpairs, hread, rfl⟩ := parseYaml_eq_ok_iff.1 h
  rw [OrderedMap.keys_ofList, hpairs]
  constructor
  · intro hkeys
    cases hread with
    | nil => rfl
    | cons _ _ =>
      rw [Entries.keys_cons, distinct] at hkeys
      cases hkeys
  · intro hnone
    obtain rfl := Option.some.inj hnone
    cases hread
    rfl

/-- The same behind reading: the bad name is refused before anything is asked for. -/
theorem injectFile_of_misnames (h : vars.Misnames name) (look : Lookup)
    (hparse : parse v s = .ok file) :
    injectFile v vars look s =
      if file.entries.keys = [] then ⟨[], .ok ∅⟩ else ⟨[], .error (.badVariable name)⟩ := by
  have hinject := inject_of_misnames h file
  by_cases hkeys : file.entries.keys = []
  · -- without entries there is no template that would look at the names
    rw [if_pos hkeys] at hinject
    have hnone : file.entries = ∅ := OrderedMap.eq_empty_of_keys hkeys
    have hdemand : file.demand vars = [] := by
      rw [demand, uses, hnone]
      rfl
    rw [if_pos hkeys, injectFile_eq_ask hparse hinject, hdemand, rendered, hnone]
    rfl
  · rw [if_neg hkeys] at hinject
    rw [if_neg hkeys]
    exact injectFile_of_inject_error hparse hinject

end EnvFile

/-! ## 2. Every injection -/

/-- A mapping with a misnamed variable is refused by every template, and a text that can be read fails
for the name before any path is asked for. An env file is refused in the same way unless it has no
entries; such a file is filled as it is. A file of lines has none if it holds only blank lines and
comments, a document if it is empty or an empty mapping. -/
theorem misnamed_refused (h : vars.Misnames name) :
    (∀ t : Template, t.inject vars = .error (.badName name)) ∧
    (∀ file : EnvFile, file.inject vars =
      if file.entries.keys = [] then .ok file else .error (.badName name)) ∧
    ∀ (v : Version) (look : Lookup) (s : Text),
      (∀ t, Template.parse v s = .ok t → inject v vars look s = ⟨[], .error (.badVariable name)⟩) ∧
      ∀ file,
        (EnvFile.parse v s = .ok file → injectFile v vars look s =
          if file.entries.keys = [] then ⟨[], .ok ∅⟩ else ⟨[], .error (.badVariable name)⟩) ∧
        (EnvFile.parseLines v s = .ok file →
          (file.entries.keys = [] ↔ ∀ line ∈ Text.lines s, EnvFile.silent line = true)) ∧
        (EnvFile.parseYaml v s = .ok file →
          (file.entries.keys = [] ↔ EnvFile.documentPairs? s = some [])) := by
  have hevery : ∀ t : Template, t.inject vars = .error (.badName name) :=
    Template.inject_of_badName? h.badName?_eq
  refine ⟨hevery, EnvFile.inject_of_misnames h, ?_⟩
  intro v look s
  constructor
  · intro t ht
    exact Template.inject_of_inject_error ht (hevery t)
  · intro file
    exact ⟨EnvFile.injectFile_of_misnames h look, EnvFile.keys_eq_nil_iff_silent,
      EnvFile.keys_eq_nil_iff_pairs⟩

def dashed : Bindings := .ofList [("a-b".toList, "x".toList)]

theorem misnames_dashed : dashed.Misnames "a-b".toList where
  mem := by decide
  bad := by decide
  only := by decide

/-- A file without entries takes a mapping that every template refuses. -/
theorem injectFile_dashed :
    dashed.Misnames "a-b".toList ∧ EnvFile.parse .v2 [] = .ok ⟨.lines, ∅⟩ ∧
      EnvFile.inject dashed ⟨.lines, ∅⟩ = .ok ⟨.lines, ∅⟩ ∧
      injectFile .v2 dashed (fun _ => .ok []) [] = ⟨[], .ok ∅⟩ :=
  ⟨misnames_dashed, rfl, rfl, rfl⟩

/-- A name with a dash, and a file with one entry. -/
theorem misnamed_refused_dashed :
    dashed.Misnames "a-b".toList ∧
      injectFile .v2 dashed (fun _ => .ok []) "K=v".toList =
        ⟨[], .error (.badVariable "a-b".toList)⟩ := by
  obtain ⟨file, hparse, hkeys⟩ : ∃ file, EnvFile.parse .v2 "K=v".toList = .ok file ∧
      file.entries.keys = ["K".toList] := exists_ok_of_toOption (by decide +kernel)
  have hne : file.entries.keys ≠ [] := by
    rw [hkeys]
    exact List.cons_ne_nil _ _
  have hrefused := (misnamed_refused misnames_dashed).2.2 .v2 (fun _ => .ok []) "K=v".toList
  rw [(hrefused.2 file).1 hparse, if_neg hne]
  exact ⟨misnames_dashed, rfl⟩

end SecretWeave
