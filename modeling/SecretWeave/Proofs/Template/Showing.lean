import SecretWeave.Proofs.Tag.Partition
import SecretWeave.Proofs.Template.Grammar

/-!
# Templates shown as they were written

A template is shown as the text it was read from, less the marks of the escaped openers that stand
outside its tags. Tags are shown to the last character, with the blanks and marks inside them. A
text without such marks is shown as itself, and so it is read again as the same template
(`source_of_parse`).
-/

namespace SecretWeave

/-- A piece as it is shown: a run as it is meant, a tag as it is written. -/
def Piece.shown : Piece → Text
  | .literal text _ => text
  | .tag _ _ raw _ => raw

namespace Brackets

variable {bs : Brackets} {s shown : Text} {marks : Nat}

/-! ## 1. What is shown of a text -/

/-- What is shown of a text, step by step: an escaped opener outside tags loses its mark, a closed
tag is kept as a whole, and any other character is kept. The marks that are lost are counted. -/
inductive Shown (bs : Brackets) : (s shown : Text) → (marks : Nat) → Prop
  | nil : Shown bs [] [] 0
  | escaped {s shown : Text} {marks : Nat} {b : Bracket} (he : escaped? bs s = some b)
      (rest : Shown bs (s.drop (1 + b.opener.length)) shown marks) :
      Shown bs s (b.opener ++ shown) (marks + 1)
  | tag {s shown : Text} {marks n : Nat} {b : Bracket} (hb : opener? bs s = some b)
      (hn : closer? bs b (s.drop b.opener.length) = some n)
      (rest : Shown bs (s.drop (b.opener.length + n + b.closer.length)) shown marks) :
      Shown bs s (s.take (b.opener.length + n + b.closer.length) ++ shown) marks
  | char {c : Char} {s shown : Text} {marks : Nat} (he : escaped? bs (c :: s) = none)
      (ho : opener? bs (c :: s) = none) (rest : Shown bs s shown marks) :
      Shown bs (c :: s) (c :: shown) marks

namespace Shown

/-- Nothing but marks is lost. -/
theorem length_eq (h : Shown bs s shown marks) : s.length = shown.length + marks := by
  induction h with
  | nil => rfl
  | escaped he _ ih =>
    obtain ⟨-, t, rfl⟩ := escaped?_eq_some he
    simp only [List.cons_append, List.length_cons, List.length_append, List.length_drop] at ih ⊢
    omega
  | tag hb hn _ ih =>
    rw [List.length_append, Nat.add_assoc, ← ih, ← List.length_append, List.take_append_drop]
  | char he ho _ ih =>
    rw [List.length_cons, List.length_cons, ih]
    omega

/-- What is shown is the text without some of its characters. -/
theorem sublist (h : Shown bs s shown marks) : shown.Sublist s := by
  induction h with
  | nil => exact .slnil
  | escaped he _ ih =>
    obtain ⟨-, t, rfl⟩ := escaped?_eq_some he
    rw [Nat.add_comm, List.cons_append, List.drop_succ_cons, List.drop_left] at ih
    exact (ih.append_left _).cons _
  | @tag s shown _ n b hb hn _ ih =>
    have hall := ih.append_left (s.take (b.opener.length + n + b.closer.length))
    rwa [List.take_append_drop] at hall
  | char he ho _ ih => exact ih.cons_cons _

/-- A text is shown as it is exactly if it has no marks to lose. -/
theorem eq_iff (h : Shown bs s shown marks) : shown = s ↔ marks = 0 := by
  have hlen := h.length_eq
  constructor
  · rintro rfl
    omega
  · intro hmarks
    exact h.sublist.eq_of_length (by omega)

end Shown

/-- There is one way to show a text. -/
theorem Tidy.shown_unique (ht : bs.Tidy) {shown' : Text} {marks' : Nat}
    (h : Shown bs s shown marks) (h' : Shown bs s shown' marks') :
    shown' = shown ∧ marks' = marks := by
  -- the marks at the front decide which rule applies, so both derivations use the same
  induction h generalizing shown' marks' with
  | nil =>
    cases h' with
    | nil => exact ⟨rfl, rfl⟩
    | escaped he => cases he
    | tag hb => simp at hb
  | escaped he _ ih =>
    cases h' with
    | nil => cases he
    | escaped he' rest =>
      obtain rfl := Option.some.inj (he.symm.trans he')
      obtain ⟨rfl, rfl⟩ := ih rest
      exact ⟨rfl, rfl⟩
    | tag hb => cases he.symm.trans (ht.escaped?_eq_none hb)
    | char he' => cases he.symm.trans he'
  | tag hb hn _ ih =>
    cases h' with
    | nil => simp at hb
    | escaped he => cases he.symm.trans (ht.escaped?_eq_none hb)
    | tag hb' hn' rest =>
      obtain rfl := Option.some.inj (hb.symm.trans hb')
      obtain rfl := Option.some.inj (hn.symm.trans hn')
      obtain ⟨rfl, rfl⟩ := ih rest
      exact ⟨rfl, rfl⟩
    | char _ ho => cases hb.symm.trans ho
  | char he ho _ ih =>
    cases h' with
    | escaped he' => cases he.symm.trans he'
    | tag hb => cases hb.symm.trans ho
    | char _ _ rest =>
      obtain ⟨rfl, rfl⟩ := ih rest
      exact ⟨rfl, rfl⟩

/-! ## 2. What is shown of the pieces -/

theorem exists_shown_run (h : Shown bs (s.drop (run bs s).raw.length) shown marks) :
    ∃ more, Shown bs s ((run bs s).text ++ shown) (marks + more) := by
  fun_induction run bs s with
  | case1 => exact ⟨0, h⟩
  | case2 c r b he rest ih =>
    rw [drop_cons_append] at h
    obtain ⟨more, hmore⟩ := ih h
    refine ⟨more + 1, ?_⟩
    rw [List.append_assoc]
    refine .escaped he ?_
    rw [drop_mark]
    exact hmore
  | case3 => exact ⟨0, h⟩
  | case4 c r he ho rest ih =>
    obtain ⟨more, hmore⟩ := ih h
    exact ⟨more, .char he ho hmore⟩

/-- The pieces of a text show it without the marks outside of its tags. -/
theorem exists_shown_cut {line : Nat} (h : (cut bs line s).fault = none) :
    ∃ marks, Shown bs s ((cut bs line s).pieces.flatMap Piece.shown) marks := by
  fun_induction cut bs line s with
  | case1 => exact ⟨0, .nil⟩
  | case2 => cases h
  | case3 line c r b hb body n hn size raw rest ih =>
    obtain ⟨marks, hmarks⟩ := ih h
    exact ⟨marks, .tag hb hn hmarks⟩
  | case4 line c r ho here rest ih =>
    obtain ⟨marks, hmarks⟩ := ih h
    obtain ⟨more, hmore⟩ := exists_shown_run hmarks
    exact ⟨marks + more, hmore⟩

theorem source_segment (bs : Brackets) (p : Piece) : (bs.segment p).source = p.shown := by
  cases p with
  | literal text raw => rfl
  | tag b content raw line =>
    -- what a tag means makes no difference to how it was written
    rw [segment]
    split
    · rfl
    · split
      · rfl
      · rfl

end Brackets

namespace Template

variable {v : Version} {s : Text} {t : Template}

theorem source_eq_of_parse (h : parse v s = .ok t) :
    t.source = (Pieces.ofText v.brackets s).pieces.flatMap Piece.shown := by
  rw [source, (parse_eq_ok_iff.1 h).2.2, List.flatMap_map]
  exact congrArg (List.flatMap · _) (funext v.brackets.source_segment)

/-- A template is shown as its text without the marks of the escaped openers outside tags, and there
is no other way to leave them out. If there are none it is shown as its text, and what is shown
is read as the same template. -/
theorem source_of_parse (h : parse v s = .ok t) :
    ∃ marks, v.brackets.Shown s t.source marks ∧
      (∀ shown marks', v.brackets.Shown s shown marks' → shown = t.source ∧ marks' = marks) ∧
      s.length = t.source.length + marks ∧ (t.source = s ↔ marks = 0) ∧
      (marks = 0 → parse v t.source = .ok t) := by
  have ht := Brackets.tidy_brackets v
  have hfault := (ht.fault_eq_none_iff 1).2 (parse_eq_ok_iff.1 h).1
  obtain ⟨marks, hshown⟩ := Brackets.exists_shown_cut hfault
  rw [← Pieces.ofText, ← source_eq_of_parse h] at hshown
  refine ⟨marks, hshown, ?_, hshown.length_eq, hshown.eq_iff, ?_⟩
  · intro shown marks' hother
    exact ht.shown_unique hshown hother
  · intro hmarks
    rw [hshown.eq_iff.2 hmarks]
    exact h

/-- A mark in front of an opener is lost outside a tag, and kept inside one. -/
theorem source_of_parse_marks :
    let s := "\\$\x7bv\x7d: \x7b\x7b k/\\\x7b\x7b\n\x7d\x7d".toList
    ∃ t, parse .v2 s = .ok t ∧
      t.source = "$\x7bv\x7d: \x7b\x7b k/\\\x7b\x7b\n\x7d\x7d".toList ∧
      Brackets.Shown Version.v2.brackets s t.source 1 := by
  intro s
  have hparse : parse .v2 "\\$\x7bv\x7d: \x7b\x7b k/\\\x7b\x7b\n\x7d\x7d".toList =
      .ok ⟨[.literal "$\x7bv\x7d: ".toList,
        .secret (.path "k/\x7b\x7b".toList)
          "\x7b\x7b k/\\\x7b\x7b\n\x7d\x7d".toList]⟩ := by decide +kernel
  obtain ⟨marks, hshown, -, hlen, -⟩ := source_of_parse hparse
  have hmarks : marks = 1 := Nat.add_left_cancel (hlen.symm.trans (by rfl))
  subst hmarks
  exact ⟨_, hparse, by rfl, hshown⟩

end Template

end SecretWeave
