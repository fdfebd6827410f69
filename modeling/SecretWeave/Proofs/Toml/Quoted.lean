import SecretWeave.Toml.Quoted

/-!
# Quoted text is read back

Whatever way of quoting the writer picks, the reader finds the text that was quoted and the end of the
quotes (`readQuoted_writeQuoted`). Between single marks this is so character by character. Between
three marks a run of marks may stand as it is; it is told from the closing marks by what follows it, so
how a text may be written there is a relation that counts the marks just before (`Spells`).
-/

namespace SecretWeave

theorem Text.char?_toNat (c : Char) : char? c.toNat = some c := by
  have hvalid : c.toNat.isValidChar := c.valid
  rw [char?, dif_pos hvalid]
  rfl

namespace Toml

variable {c mark : Char} {e s t w x rest : Text} {run : Nat}

/-! ## 1. Escapes -/

/-- A text behind a backslash that stands for a character and does not end the line. -/
structure Escapes (e : Text) (c : Char) : Prop where
  read : ∀ x, escape? (e ++ x) = some (c, x)
  stays : ∀ x, continuation? (e ++ x) = none

theorem scalar?_four (a b c d : Char) (x : Text) :
    scalar? 4 (a :: b :: c :: d :: x) =
      ((Text.readDigits? 16 [a, b, c, d]).bind Text.char?).map (·, x) := by
  have hlength : 4 ≤ (a :: b :: c :: d :: x).length := by simp
  rw [scalar?, if_pos hlength]
  rfl

theorem readDigits?_code : ∀ n < 128,
    Text.readDigits? 16 ['0', '0', Text.upperHex (n / 16), Text.upperHex (n % 16)] = some n := by
  decide

theorem toNat_lt_of_needsCode (h : needsCode c = true) : c.toNat < 128 := by
  simp only [needsCode, isPlain, Bool.and_eq_true, Bool.not_eq_true', Bool.or_eq_false_iff,
    Bool.and_eq_false_imp, decide_eq_true_eq] at h
  by_cases hlow : 0x20 ≤ c.toNat
  · have hdelete : c.toNat = 0x7F := by simpa using h.2.2 hlow
    omega
  · omega

/-- Control characters are written by their number. -/
theorem escapes_code (h : needsCode c = true) :
    Escapes ['u', '0', '0', Text.upperHex (c.toNat / 16), Text.upperHex (c.toNat % 16)] c where
  read x := by
    show scalar? 4 ('0' :: '0' :: _ :: _ :: x) = _
    rw [scalar?_four, readDigits?_code c.toNat (toNat_lt_of_needsCode h), Option.bind_some,
      Text.char?_toNat]
    rfl
  stays _ := rfl

theorem escapes_mark : Escapes ['"'] '"' := ⟨fun _ => rfl, fun _ => rfl⟩

/-- How a character is written between double quotes: as it is, or by an escape. -/
inductive WrittenAs (c : Char) : Text → Prop where
  | plain (hplain : isPlain c = true) (hmark : c ≠ '"') (hback : c ≠ '\\') : WrittenAs c [c]
  | escaped {e : Text} (he : Escapes e c) : WrittenAs c ('\\' :: e)

/-- A character in double quotes is written as itself or as an escape of it. -/
theorem writtenAs_writeChar (hmark : c ≠ '"') (hline : c ≠ '\n') : WrittenAs c (writeChar c) := by
  unfold writeChar
  split
  · exact .escaped ⟨fun _ => rfl, fun _ => rfl⟩
  · exact .escaped ⟨fun _ => rfl, fun _ => rfl⟩
  · exact .escaped ⟨fun _ => rfl, fun _ => rfl⟩
  · exact .escaped ⟨fun _ => rfl, fun _ => rfl⟩
  · exact .escaped ⟨fun _ => rfl, fun _ => rfl⟩
  · rename_i hback _ _ _ _
    split
    · rename_i hcode
      exact .escaped (escapes_code hcode)
    · rename_i hcode
      have hplain : isPlain c = true := by simpa [needsCode, hline] using hcode
      exact .plain hplain hmark hback

theorem newline?_of_plain (h : isPlain c = true) (x : Text) : newline? (c :: x) = none := by
  unfold newline?
  split
  · rename_i hc
    obtain rfl := (List.cons.inj hc).1
    cases h
  · rename_i hc
    obtain rfl := (List.cons.inj hc).1
    cases h
  · rfl

/-! ## 2. Between single marks -/

/-- The written form of a character is read as that character. -/
theorem readBasic_writtenAs (h : WrittenAs c w) (x : Text) :
    readBasic (w ++ x) = (readBasic x).map (push c) := by
  cases h with
  | plain hplain hmark hback =>
    rw [List.singleton_append, readBasic, if_neg hmark, if_neg hback, if_pos hplain]
  | escaped he =>
    rw [List.cons_append, readBasic, if_neg (by decide), if_pos rfl]
    split
    · rename_i hread
      rw [he.read x] at hread
      obtain ⟨rfl, rfl⟩ := Prod.mk.inj (Option.some.inj hread)
      rfl
    · rename_i hread
      cases (he.read x).symm.trans hread

/-- Between double marks a mark and a line break are escaped, all else is written as it may stand. -/
theorem exists_writtenAs (c : Char) (s : Text) :
    ∃ w, WrittenAs c w ∧ writeEscaped false 0 (c :: s) = w ++ writeEscaped false 0 s := by
  rw [writeEscaped]
  by_cases hmark : c = '"'
  · subst hmark
    exact ⟨['\\', '"'], .escaped escapes_mark, rfl⟩
  · rw [if_neg hmark]
    by_cases hline : c = '\n'
    · subst hline
      exact ⟨['\\', 'n'], .escaped ⟨fun _ => rfl, fun _ => rfl⟩, rfl⟩
    · rw [if_neg hline]
      exact ⟨writeChar c, writtenAs_writeChar hmark hline, rfl⟩

/-- A text between double quotes is read back. -/
theorem readBasic_writeEscaped (s x : Text) :
    readBasic (writeEscaped false 0 s ++ '"' :: x) = some (s, x) := by
  induction s with
  | nil => rw [writeEscaped, List.nil_append, readBasic, if_pos rfl]
  | cons c s ih =>
    obtain ⟨w, hw, hwrite⟩ := exists_writtenAs c s
    rw [hwrite, List.append_assoc, readBasic_writtenAs hw, ih]
    rfl

/-- A text between single quotes is read back. -/
theorem readLiteral_self (h : ∀ c ∈ s, isPlain c = true ∧ c ≠ '\'') (x : Text) :
    readLiteral (s ++ '\'' :: x) = some (s, x) := by
  induction s with
  | nil => rfl
  | cons c s ih =>
    obtain ⟨⟨hplain, hmark⟩, hrest⟩ := List.forall_mem_cons.1 h
    rw [List.cons_append, readLiteral, if_neg hmark, if_pos hplain, ih hrest]
    rfl

/-! ## 3. Between three marks -/

/-- How a text may be written between three marks: a mark as it is, unless two stand before it, a line
break or a plain character as it is, anything by an escape if the marks are double ones. The number
counts the marks just before. -/
inductive Spells (mark : Char) : Nat → Text → Text → Prop where
  | nil {run : Nat} : Spells mark run [] []
  | mark {run : Nat} {w s : Text} (hrun : run < 2) (h : Spells mark (run + 1) w s) :
      Spells mark run (mark :: w) (mark :: s)
  | line {run : Nat} {w s : Text} (h : Spells mark 0 w s) : Spells mark run ('\n' :: w) ('\n' :: s)
  | plain {run : Nat} {c : Char} {w s : Text} (hplain : isPlain c = true) (hmark : c ≠ mark)
      (hback : mark = '"' → c ≠ '\\') (h : Spells mark 0 w s) : Spells mark run (c :: w) (c :: s)
  | escaped {run : Nat} {c : Char} {e w s : Text} (hmark : mark = '"') (he : Escapes e c)
      (h : Spells mark 0 w s) : Spells mark run ('\\' :: e ++ w) (c :: s)

/-- The marks at the start of a written text are the whole text, or at most two with those before. -/
theorem marks_of_spells (hquote : mark = '"' ∨ mark = '\'') (h : Spells mark run w s)
    (hrun : run ≤ 2) :
    (∃ k, k + run ≤ 2 ∧ w = List.replicate k mark ∧ s = List.replicate k mark) ∨
      ∀ x, ((w ++ x).takeWhile (· == mark)).length + run ≤ 2 := by
  -- either all that is left are marks, or something else ends the run of them
  induction h with
  | nil => exact .inl ⟨0, by omega, rfl, rfl⟩
  | @mark run w s hlt _ ih =>
    rcases ih (by omega) with ⟨k, hk, rfl, rfl⟩ | hfew
    · exact .inl ⟨k + 1, by omega, rfl, rfl⟩
    · refine .inr fun x => ?_
      have hmore := hfew x
      rw [List.cons_append, List.takeWhile_cons, beq_self_eq_true, if_pos rfl, List.length_cons]
      omega
  | line _ _ =>
    refine .inr fun x => ?_
    rw [List.cons_append, List.takeWhile_cons_of_neg (by rcases hquote with rfl | rfl <;> decide)]
    simpa using hrun
  | plain _ hmark _ _ _ =>
    refine .inr fun x => ?_
    rw [List.cons_append, List.takeWhile_cons_of_neg (by simpa using hmark)]
    simpa using hrun
  | escaped hmark _ _ _ =>
    refine .inr fun x => ?_
    rw [List.cons_append, List.cons_append, List.takeWhile_cons_of_neg (by rw [hmark]; decide)]
    simpa using hrun

/-- Up to two marks before the closing ones belong to the text. -/
theorem readMulti_close {k : Nat} (hk : k ≤ 2) (hrest : rest.head? ≠ some mark) :
    readMulti mark (List.replicate k mark ++ mark :: mark :: mark :: rest) =
      some (List.replicate k mark, rest) := by
  have hstop : rest.takeWhile (· == mark) = [] := by
    cases rest with
    | nil => rfl
    | cons c r =>
      have hc : ¬ c = mark := fun h => hrest (congrArg some h)
      exact List.takeWhile_cons_of_neg (by simpa using hc)
  obtain rfl | rfl | rfl : k = 0 ∨ k = 1 ∨ k = 2 := by omega
  all_goals
    simp only [List.replicate, List.nil_append, List.cons_append]
    rw [readMulti, if_pos rfl]
    simp [hstop]

/-- Fewer than three marks in a row belong to the text. -/
theorem readMulti_mark (h : (x.takeWhile (· == mark)).length < 2) :
    readMulti mark (mark :: x) = (readMulti mark x).map (push mark) := by
  rw [readMulti, if_pos rfl]
  dsimp only
  rw [if_pos (by omega)]

theorem readMulti_line (hquote : mark = '"' ∨ mark = '\'') (x : Text) :
    readMulti mark ('\n' :: x) = (readMulti mark x).map (push '\n') := by
  have hmark : ¬ '\n' = mark := by rcases hquote with rfl | rfl <;> decide
  rw [readMulti, if_neg hmark]
  rfl

theorem readMulti_plain (hplain : isPlain c = true) (hmark : c ≠ mark) (hback : mark = '"' → c ≠ '\\')
    (x : Text) : readMulti mark (c :: x) = (readMulti mark x).map (push c) := by
  have hline := newline?_of_plain hplain x
  have hescape : ¬ (c = '\\' ∧ mark = '"') := fun h => hback h.2 h.1
  rw [readMulti, if_neg hmark]
  split
  · rename_i hsome
    cases hline.symm.trans hsome
  · rw [if_neg hescape, if_pos hplain]

/-- An escape between three double quotes is read as its character. -/
theorem readMulti_escaped (he : Escapes e c) (x : Text) :
    readMulti '"' ('\\' :: e ++ x) = (readMulti '"' x).map (push c) := by
  rw [List.cons_append, readMulti, if_neg (by decide)]
  split
  · rename_i hsome
    cases hsome
  · rw [if_pos ⟨rfl, rfl⟩]
    split
    · rename_i hsome
      cases (he.stays x).symm.trans hsome
    · split
      · rename_i hread
        rw [he.read x] at hread
        obtain ⟨rfl, rfl⟩ := Prod.mk.inj (Option.some.inj hread)
        rfl
      · rename_i hread
        cases (he.read x).symm.trans hread

/-- A text that is written as it may stand between three marks is read back. -/
theorem readMulti_spells (hquote : mark = '"' ∨ mark = '\'') (h : Spells mark run w s) (hrun : run ≤ 2)
    (hrest : rest.head? ≠ some mark) :
    readMulti mark (w ++ mark :: mark :: mark :: rest) = some (s, rest) := by
  induction h with
  | nil => exact readMulti_close (Nat.zero_le 2) hrest
  | @mark run w s hlt h ih =>
    rcases marks_of_spells hquote h hlt with ⟨k, hk, rfl, rfl⟩ | hfew
    · -- the text ends in marks, which are read together with the closing ones
      exact readMulti_close (k := k + 1) (by omega) hrest
    · have hmarks := hfew (mark :: mark :: mark :: rest)
      rw [List.cons_append, readMulti_mark (by omega), ih hlt]
      rfl
  | line _ ih =>
    rw [List.cons_append, readMulti_line hquote, ih (Nat.zero_le 2)]
    rfl
  | plain hplain hmark hback _ ih =>
    rw [List.cons_append, readMulti_plain hplain hmark hback, ih (Nat.zero_le 2)]
    rfl
  | escaped hmark he _ ih =>
    subst hmark
    rw [List.append_assoc, readMulti_escaped he, ih (Nat.zero_le 2)]
    rfl

/-! ## 4. Writing -/

theorem spells_writtenAs {u : Text} (hu : WrittenAs c u) (h : Spells '"' 0 w s) :
    Spells '"' run (u ++ w) (c :: s) := by
  cases hu with
  | plain hplain hmark hback => exact .plain hplain hmark (fun _ => hback) h
  | escaped he => exact .escaped rfl he h

/-- What is written between three double quotes spells the text. -/
theorem spells_writeEscaped (s : Text) (hrun : run ≤ 2) : Spells '"' run (writeEscaped true run s) s := by
  induction s generalizing run with
  | nil => exact .nil
  | cons c s ih =>
    rw [writeEscaped]
    by_cases hmark : c = '"'
    · subst hmark
      rw [if_pos rfl, if_pos rfl]
      split
      · rename_i hlt
        exact .mark hlt (ih hlt)
      · exact .escaped rfl escapes_mark (ih (Nat.zero_le 2))
    · rw [if_neg hmark]
      by_cases hline : c = '\n'
      · subst hline
        exact .line (ih (Nat.zero_le 2))
      · rw [if_neg hline]
        exact spells_writtenAs (writtenAs_writeChar hmark hline) (ih (Nat.zero_le 2))

theorem length_takeWhile_le_longestRun (m : Char) (s : Text) :
    (s.takeWhile (· == m)).length ≤ longestRun m s := by
  cases s with
  | nil => exact Nat.zero_le _
  | cons c s => exact Nat.le_max_left _ _

/-- A text without control characters and long runs of single quotation marks stands between three of
them as it is. -/
theorem spells_self (hcoded : ∀ c ∈ s, needsCode c = false) (hlong : longestRun '\'' s ≤ 2)
    (hrun : run + (s.takeWhile (· == '\'')).length ≤ 2) : Spells '\'' run s s := by
  induction s generalizing run with
  | nil => exact .nil
  | cons c s ih =>
    obtain ⟨hcode, hcodes⟩ := List.forall_mem_cons.1 hcoded
    have hlonger : longestRun '\'' s ≤ 2 := Nat.le_trans (Nat.le_max_right _ _) hlong
    have hfirst := length_takeWhile_le_longestRun '\'' s
    by_cases hmark : c = '\''
    · subst hmark
      rw [List.takeWhile_cons, beq_self_eq_true, if_pos rfl, List.length_cons] at hrun
      exact .mark (by omega) (ih hcodes hlonger (by omega))
    · by_cases hline : c = '\n'
      · subst hline
        exact .line (ih hcodes hlonger (by omega))
      · have hplain : isPlain c = true := by simpa [needsCode, hline] using hcode
        exact .plain hplain hmark (fun hdouble => absurd hdouble (by decide))
          (ih hcodes hlonger (by omega))

/-- Without a line break in the text there is none at the start of what is written. -/
theorem newline?_of_spells (hquote : mark = '"' ∨ mark = '\'') (h : Spells mark run w s)
    (hline : '\n' ∉ s) (x : Text) : newline? (w ++ mark :: x) = none := by
  have hmark : isPlain mark = true := by rcases hquote with rfl | rfl <;> rfl
  cases h with
  | nil => exact newline?_of_plain hmark x
  | mark _ _ => exact newline?_of_plain hmark _
  | line _ => exact absurd List.mem_cons_self hline
  | plain hplain _ _ _ => exact newline?_of_plain hplain _
  | escaped _ _ _ => rfl

theorem readQuoted_three (hquote : mark = '"' ∨ mark = '\'') (x : Text) :
    readQuoted (mark :: mark :: mark :: x) = readMulti mark (dropNewline x) := by
  rcases hquote with rfl | rfl <;> rfl

/-- What spells a text between three marks is read as that text. -/
theorem readQuoted_writeMulti (hquote : mark = '"' ∨ mark = '\'') (h : Spells mark 0 w s)
    (hrest : rest.head? ≠ some mark) : readQuoted (writeMulti mark s w ++ rest) = some (s, rest) := by
  have hread := readMulti_spells hquote h (Nat.zero_le 2) hrest
  unfold writeMulti
  simp only [List.append_assoc, List.cons_append, List.nil_append]
  rw [readQuoted_three hquote]
  by_cases hline : '\n' ∈ s
  · -- the line break behind the opening marks is dropped
    rw [if_pos (List.contains_iff_mem.2 hline)]
    exact hread
  · rw [if_neg (by simpa using hline), List.nil_append, dropNewline,
      newline?_of_spells hquote h hline, Option.getD_none, hread]

theorem readQuoted_double (h : ∀ r, x ≠ '"' :: '"' :: r) : readQuoted ('"' :: x) = readBasic x := by
  unfold readQuoted
  split
  · rename_i r heq
    exact absurd (List.cons.inj heq).2 (h r)
  · rename_i heq
    cases heq
  · rename_i heq
    rw [(List.cons.inj heq).2]
  · rename_i heq
    cases heq
  · rename_i hdouble _
    exact absurd rfl (hdouble x)

theorem readQuoted_single (h : ∀ r, x ≠ '\'' :: '\'' :: r) :
    readQuoted ('\'' :: x) = readLiteral x := by
  unfold readQuoted
  split
  · rename_i heq
    cases heq
  · rename_i r heq
    exact absurd (List.cons.inj heq).2 (h r)
  · rename_i heq
    cases heq
  · rename_i heq
    rw [(List.cons.inj heq).2]
  · rename_i hsingle
    exact absurd rfl (hsingle x)

/-- Between double marks the writer never begins with one. -/
theorem writeEscaped_ne (s : Text) (hrest : rest.head? ≠ some '"') (r : Text) :
    writeEscaped false 0 s ++ '"' :: rest ≠ '"' :: '"' :: r := by
  intro heq
  cases s with
  | nil =>
    have hr : rest = '"' :: r := (List.cons.inj heq).2
    exact hrest (congrArg List.head? hr)
  | cons c s =>
    obtain ⟨w, hw, hwrite⟩ := exists_writtenAs c s
    rw [hwrite] at heq
    cases hw with
    | plain _ hmark _ => exact hmark (List.cons.inj heq).1
    | escaped _ => cases (List.cons.inj heq).1

theorem literal_ne (h : ∀ c ∈ s, isPlain c = true ∧ c ≠ '\'') (hrest : rest.head? ≠ some '\'')
    (r : Text) : s ++ '\'' :: rest ≠ '\'' :: '\'' :: r := by
  intro heq
  cases s with
  | nil =>
    have hr : rest = '\'' :: r := (List.cons.inj heq).2
    exact hrest (congrArg List.head? hr)
  | cons c s => exact (h c List.mem_cons_self).2 (List.cons.inj heq).1

/-! ## 5. The way that is picked -/

/-- Single quotes are picked only for texts without anything that they cannot hold. -/
theorem plain_of_styleOf (h : styleOf s = .literal) : ∀ c ∈ s, isPlain c = true ∧ c ≠ '\'' := by
  simp only [styleOf] at h
  split at h
  · cases h
  · split at h
    · rename_i hpick
      obtain ⟨⟨hcoded, hline⟩, hmark⟩ :
          ((∀ c ∈ s, needsCode c = false) ∧ '\n' ∉ s) ∧ '\'' ∉ s := by simpa using hpick
      intro c hc
      have hne : c ≠ '\n' := fun heq => hline (heq ▸ hc)
      exact ⟨by simpa [needsCode, hne] using hcoded c hc, fun heq => hmark (heq ▸ hc)⟩
    · split at h
      · cases h
      · split at h
        · cases h
        · split at h <;> cases h

/-- Three single quotes are picked only for texts that need no escapes and hold no three of them. -/
theorem runs_of_styleOf (h : styleOf s = .multiLiteral) :
    (∀ c ∈ s, needsCode c = false) ∧ longestRun '\'' s ≤ 2 := by
  simp only [styleOf] at h
  split at h
  · cases h
  · split at h
    · cases h
    · split at h
      · cases h
      · split at h
        · rename_i hpick
          simpa using hpick
        · split at h <;> cases h

/-- The first character of a quoted text is a quotation mark. -/
theorem exists_mark (s : Text) :
    ∃ mark r, (mark = '"' ∨ mark = '\'') ∧ writeQuoted s = mark :: r := by
  unfold writeQuoted
  cases styleOf s with
  | basic => exact ⟨'"', _, .inl rfl, rfl⟩
  | literal => exact ⟨'\'', _, .inr rfl, rfl⟩
  | multi => exact ⟨'"', _, .inl rfl, rfl⟩
  | multiLiteral => exact ⟨'\'', _, .inr rfl, rfl⟩

/-- What is quoted is read back, unless another quotation mark follows. -/
theorem readQuoted_writeQuoted (s : Text) (hdouble : rest.head? ≠ some '"')
    (hsingle : rest.head? ≠ some '\'') : readQuoted (writeQuoted s ++ rest) = some (s, rest) := by
  unfold writeQuoted
  cases hstyle : styleOf s with
  | basic =>
    simp only [List.cons_append, List.append_assoc, List.nil_append]
    rw [readQuoted_double (writeEscaped_ne s hdouble), readBasic_writeEscaped]
  | literal =>
    have hplain := plain_of_styleOf hstyle
    simp only [List.cons_append, List.append_assoc, List.nil_append]
    rw [readQuoted_single (literal_ne hplain hsingle), readLiteral_self hplain]
  | multi => exact readQuoted_writeMulti (.inl rfl) (spells_writeEscaped s (Nat.zero_le 2)) hdouble
  | multiLiteral =>
    obtain ⟨hcoded, hlong⟩ := runs_of_styleOf hstyle
    have hfirst := length_takeWhile_le_longestRun '\'' s
    exact readQuoted_writeMulti (.inr rfl) (spells_self hcoded hlong (by omega)) hsingle

-- two marks in a row are left as they are, and a third one gets a backslash
example : writeQuoted "'''\n\"\"\"".toList = "\"\"\"\n'''\n\"\"\\\"\"\"\"".toList := by rfl

end Toml

end SecretWeave
