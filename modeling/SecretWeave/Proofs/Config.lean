import SecretWeave.Config
import SecretWeave.Proofs.Toml.Quoted

/-!
# Configurations are read back

A configuration is written as the header of one table and a line for each choice that is made. Read
again, every line adds the choice that it was written for, so the document stands for the
configuration (`parse_render`).
-/

namespace SecretWeave

namespace Toml

variable {c : Char} {header k t x rest : Text} {es fs : Entries} {n : Nat}

/-! ## 1. Keys -/

structure Bare (k : Text) : Prop where
  ne_nil : k ≠ []
  all : ∀ c ∈ k, isBare c = true

theorem Bare.append_ne_nil (h : Bare k) (x : Text) : k ++ x ≠ [] :=
  List.append_ne_nil_of_left_ne_nil h.ne_nil x

/-- A text that starts with a key starts with no other character than those of keys. -/
theorem Bare.append_ne (h : Bare k) (hc : isBare c = false) (x r : Text) : k ++ x ≠ c :: r := by
  obtain ⟨d, s, rfl⟩ := List.exists_cons_of_ne_nil h.ne_nil
  intro heq
  have hd := h.all d List.mem_cons_self
  rw [(List.cons.inj heq).1] at hd
  cases hc.symm.trans hd

theorem takeWhile_append_of_stop {p : Char → Bool} (hk : ∀ c ∈ k, p c = true) (hc : p c = false)
    (x : Text) : (k ++ c :: x).takeWhile p = k := by
  rw [List.takeWhile_append_of_pos hk, List.takeWhile_cons_of_neg (by simp [hc]), List.append_nil]

theorem dropWhile_append_of_stop {p : Char → Bool} (hk : ∀ c ∈ k, p c = true) (hc : p c = false)
    (x : Text) : (k ++ c :: x).dropWhile p = c :: x := by
  rw [List.dropWhile_append_of_pos hk, List.dropWhile_cons_of_neg (by simp [hc])]

theorem readPart_bare (h : Bare k) (hc : isBare c = false) (x : Text) :
    readPart (k ++ c :: x) = some (k, c :: x) := by
  have hsome : ¬ k.isEmpty = true := by simpa using h.ne_nil
  unfold readPart
  split
  · rename_i heq
    exact absurd heq (h.append_ne rfl _ _)
  · rename_i heq
    exact absurd heq (h.append_ne rfl _ _)
  · rw [takeWhile_append_of_stop h.all hc, dropWhile_append_of_stop h.all hc, if_neg hsome]

theorem skipBlanks_bare (h : Bare k) (x : Text) : skipBlanks (k ++ x) = k ++ x := by
  cases hkx : k ++ x with
  | nil => rfl
  | cons d r =>
    have hd : ¬ isBlank d = true := by
      intro hblank
      simp only [isBlank, Bool.or_eq_true, beq_iff_eq] at hblank
      rcases hblank with rfl | rfl
      · exact h.append_ne rfl _ _ hkx
      · exact h.append_ne rfl _ _ hkx
    exact List.dropWhile_cons_of_neg hd

/-- A bare key with one part, from the blanks behind it to what is no dot. -/
theorem readKey_bare (h : Bare k) (hc : isBare c = false) {d : Char}
    (hskip : skipBlanks (c :: x) = d :: rest) (hd : d ≠ '.') (n : Nat) :
    readKey (n + 1) (k ++ c :: x) = some ([k], d :: rest) := by
  rw [readKey, skipBlanks_bare h, readPart_bare h hc]
  dsimp only
  rw [hskip]
  split
  · rename_i heq
    exact absurd (List.cons.inj heq).1 hd
  · rfl

/-! ## 2. Lines -/

/-- A quoted text is read back as its value, up to the end of the line. -/
theorem readValue_writeQuoted (n depth : Nat) (t rest : Text) :
    readValue (n + 1) depth (writeQuoted t ++ '\n' :: rest) = some (.string t, '\n' :: rest) := by
  have hread : readQuoted (writeQuoted t ++ '\n' :: rest) = some (t, '\n' :: rest) :=
    readQuoted_writeQuoted t (by simp) (by simp)
  obtain ⟨mark, r, hmark, hwrite⟩ := exists_mark t
  rw [hwrite, List.cons_append] at hread ⊢
  rcases hmark with rfl | rfl
  · rw [readValue, hread]
    rfl
  · rw [readValue, hread]
    rfl

theorem skipBlanks_writeQuoted (t x : Text) :
    skipBlanks (' ' :: (writeQuoted t ++ x)) = writeQuoted t ++ x := by
  obtain ⟨mark, r, hmark, hwrite⟩ := exists_mark t
  rw [hwrite, List.cons_append]
  rcases hmark with rfl | rfl <;> rfl

/-- The line that gives a key a text. -/
theorem readEntry_writeQuoted (h : Bare k) (t rest : Text) :
    readEntry (k ++ ' ' :: '=' :: ' ' :: (writeQuoted t ++ '\n' :: rest)) =
      some ([k], .string t, rest) := by
  have hkey : readKey (maxDepth - 1) (k ++ ' ' :: '=' :: ' ' :: (writeQuoted t ++ '\n' :: rest)) =
      some ([k], '=' :: ' ' :: (writeQuoted t ++ '\n' :: rest)) :=
    readKey_bare h rfl rfl (by decide) (maxDepth - 2)
  unfold readEntry
  rw [hkey]
  simp only [skipBlanks_writeQuoted, readValue_writeQuoted]
  rfl

/-- A line does not end where a key starts. -/
theorem lineEnd?_bare (h : Bare k) (x : Text) : lineEnd? (k ++ x) = none := by
  have hcomment : skipComment (k ++ x) = k ++ x := by
    unfold skipComment
    split
    · rename_i heq
      exact absurd heq (h.append_ne rfl _ _)
    · rfl
  unfold lineEnd?
  rw [skipBlanks_bare h, hcomment]
  split
  · rename_i heq
    exact absurd heq (h.append_ne_nil x)
  · unfold newline?
    split
    · rename_i heq
      exact absurd heq (h.append_ne rfl _ _)
    · rename_i heq
      exact absurd heq (h.append_ne rfl _ _)
    · rfl

/-- A line that starts with a key is neither a header nor empty, but an entry. -/
theorem readLines_bare (h : Bare k) {header path : List Text} {v : Value} {es fs : Entries}
    (hentry : readEntry (k ++ x) = some (path, v, rest))
    (hchange : Table.change? .implied (Table.assign? path v) header (.header, es) = some fs)
    (n : Nat) : readLines (n + 1) header es (k ++ x) = readLines n header fs rest := by
  rw [readLines, skipBlanks_bare h]
  split
  · rename_i heq
    exact absurd heq (h.append_ne_nil x)
  · rename_i heq
    exact absurd heq (h.append_ne rfl _ _)
  · rename_i heq
    exact absurd heq (h.append_ne rfl _ _)
  · simp only [lineEnd?_bare h, hentry, hchange]

theorem Entries.store_of_find? (h : Entries.find? k es = none) (v : Value) :
    Entries.store k v es = es ++ [(k, v)] := by
  induction es with
  | nil => rfl
  | cons e es ih =>
    obtain ⟨l, w⟩ := e
    by_cases hl : l = k
    · simp [Entries.find?, hl] at h
    · rw [Entries.find?, if_neg hl] at h
      rw [Entries.store, if_neg hl, ih h]
      rfl

/-- A text under a key that is new in the table opened last. -/
theorem change?_assign? (hes : Entries.find? header es = some (.table .header fs))
    (hfs : Entries.find? k fs = none) (v : Value) :
    Table.change? .implied (Table.assign? [k] v) [header] (.header, es) =
      some (Entries.store header (.table .header (Entries.store k v fs)) es) := by
  have hassign : Table.assign? [k] v (.header, fs) = some (Entries.store k v fs) := by
    simp [Table.assign?, Table.change?, Entries.add?, hfs]
  rw [Table.change?, hes]
  simp [Table.change?, hassign]

/-- A line `k = "…"` behind a header adds one entry to the table of that header. -/
theorem readLines_writeQuoted (h : Bare k)
    (hes : Entries.find? header es = some (.table .header fs)) (hfs : Entries.find? k fs = none)
    (n : Nat) (t rest : Text) :
    readLines (n + 1) [header] es (k ++ ' ' :: '=' :: ' ' :: (writeQuoted t ++ '\n' :: rest)) =
      readLines n [header] (Entries.store header (.table .header (Entries.store k (.string t) fs)) es)
        rest :=
  readLines_bare h (readEntry_writeQuoted h t rest) (change?_assign? hes hfs _) n

/-- The header of a table at the start of a document. -/
theorem readLines_header (h : Bare k) (n : Nat) (rest : Text) :
    readLines (n + 1) [] [] ('[' :: (k ++ ']' :: '\n' :: rest)) =
      readLines n [k] [(k, .table .header [])] rest := by
  -- a bare key starts with no bracket, so this is no header of an array
  have hkey : readKey (maxDepth - 1) (k ++ ']' :: '\n' :: rest) = some ([k], ']' :: '\n' :: rest) :=
    readKey_bare h rfl rfl (by decide) (maxDepth - 2)
  have hheader : readHeader [']'] (k ++ ']' :: '\n' :: rest) = some ([k], rest) := by
    unfold readHeader
    rw [hkey]
    rfl
  have hskip : skipBlanks ('[' :: (k ++ ']' :: '\n' :: rest)) = '[' :: (k ++ ']' :: '\n' :: rest) := rfl
  rw [readLines, hskip]
  split
  · rename_i heq
    cases heq
  · rename_i heq
    exact absurd (List.cons.inj heq).2 (h.append_ne rfl _ _)
  · rename_i heq
    obtain rfl := (List.cons.inj heq).2
    rw [hheader]
    rfl
  · rename_i hsingle
    exact absurd rfl (hsingle _)

end Toml

namespace Config

open Toml

variable {c : Config} {k rest : Text} {n : Nat}

/-! ## 3. Documents -/

def entriesOf (key : Text) : Option Text → Toml.Entries
  | Option.none => []
  | some t => [(key, .string t)]

theorem bare_tableKey : Bare tableKey := ⟨by decide, List.all_eq_true.1 (by rfl)⟩

theorem bare_sourceKey : Bare sourceKey := ⟨by decide, List.all_eq_true.1 (by rfl)⟩

theorem bare_versionKey : Bare versionKey := ⟨by decide, List.all_eq_true.1 (by rfl)⟩

/-- The line of a choice adds the choice to the table; without a choice there is no line. -/
theorem readLines_line (h : Bare k) {fs : Toml.Entries} (hfs : Toml.Entries.find? k fs = Option.none)
    (choice : Option Text) (rest : Text) (n : Nat) :
    ∃ m, n ≤ m ∧ readLines (n + 1) [tableKey] [(tableKey, .table .header fs)]
        (line k choice ++ rest) =
      readLines m [tableKey] [(tableKey, .table .header (fs ++ entriesOf k choice))] rest := by
  cases choice with
  | none => exact ⟨n + 1, Nat.le_succ n, by rw [entriesOf, List.append_nil]; rfl⟩
  | some t =>
    have hline : line k (some t) ++ rest =
        k ++ ' ' :: '=' :: ' ' :: (writeQuoted t ++ '\n' :: rest) := by
      simp [line]
    have hes : Toml.Entries.find? tableKey [(tableKey, .table .header fs)] =
        some (.table .header fs) := if_pos rfl
    refine ⟨n, Nat.le_refl n, ?_⟩
    rw [hline, readLines_writeQuoted h hes hfs, Toml.Entries.store_of_find? hfs]
    rfl

/-- The table that a written configuration stands for. -/
theorem parse_render_entries (c : Config) :
    Toml.parse (render c) = some [(tableKey, .table .header
      (entriesOf sourceKey c.source ++ entriesOf versionKey c.templateVersion))] := by
  have hrender : render c = '[' :: (tableKey ++ ']' :: '\n' ::
      (line sourceKey c.source ++ (line versionKey c.templateVersion ++ []))) := by
    simp [render]
  -- each line takes a step, and there are more characters than lines
  obtain ⟨n, hn⟩ : ∃ n, (render c).length = n + 3 := by
    apply Nat.exists_eq_add_of_le'
    rw [hrender]
    simp only [List.length_cons, List.length_append]
    omega
  have hempty : Toml.Entries.find? sourceKey [] = Option.none := rfl
  have hversion : Toml.Entries.find? versionKey ([] ++ entriesOf sourceKey c.source) = Option.none := by
    cases c.source <;> rfl
  obtain ⟨m, hm, hsource⟩ := readLines_line bare_sourceKey hempty c.source
    (line versionKey c.templateVersion ++ []) (n + 2)
  obtain ⟨k, rfl⟩ : ∃ k, m = k + 1 := ⟨m - 1, by omega⟩
  obtain ⟨l, hl, hrest⟩ := readLines_line bare_versionKey hversion c.templateVersion [] k
  obtain ⟨l, rfl⟩ : ∃ j, l = j + 1 := ⟨l - 1, by omega⟩
  have hbody : Toml.parse (render c) = readLines ((render c).length + 1) [] [] (render c) := by
    rw [hrender]
    rfl
  rw [hbody, hn, hrender, readLines_header bare_tableKey, hsource, hrest]
  rfl

/-- A table of choices makes these choices. -/
theorem ofEntries_entriesOf (c : Config) :
    ofEntries (entriesOf sourceKey c.source ++ entriesOf versionKey c.templateVersion) = .ok c := by
  obtain ⟨source, version⟩ := c
  cases source <;> cases version <;> rfl

/-- What is written is read back, whatever texts are chosen. -/
theorem parse_render (c : Config) : parse (render c) = .ok c := by
  rw [parse, parse_render_entries]
  exact ofEntries_entriesOf c

end Config

end SecretWeave
