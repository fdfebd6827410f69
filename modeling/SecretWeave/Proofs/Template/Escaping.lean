import SecretWeave.Proofs.Tag.Joining
import SecretWeave.Proofs.Template.Rendering
import SecretWeave.Template.Parse

/-!
# Texts written as templates

Every text can be written as a template: a mark before each opener that is met on the way through
the text keeps it from opening a tag. No opener holds a mark, so marks make no opener where none
was, and the run that takes the marks out stays in step with the walk that puts them in
(`run_escape`). What is read is the text (`parse_escape`).
-/

namespace SecretWeave

namespace Brackets

/-- A text with a mark before each opener that is met on the way through it. -/
def escape (bs : Brackets) : Text → Text
  | [] => []
  | c :: r =>
    match opener? bs (c :: r) with
    | some b => escapeMark :: b.opener ++ escape bs ((c :: r).drop b.opener.length)
    | none => c :: escape bs r
termination_by s => s.length
decreasing_by
  · have := b.length_opener_pos
    simp only [List.length_drop, List.length_cons]; omega
  · simp

variable {bs : Brackets} {b : Bracket} {c : Char} {r s t : Text}

/-! ## 1. The walk -/

@[simp] theorem escape_nil (bs : Brackets) : escape bs [] = [] := by
  rw [escape]

theorem escape_opener (hb : opener? bs s = some b) :
    escape bs s = escapeMark :: b.opener ++ escape bs (s.drop b.opener.length) := by
  cases s with
  | nil => simp at hb
  | cons c r =>
    rw [escape]
    simp only [hb]

theorem escape_char (ho : opener? bs (c :: r) = none) : escape bs (c :: r) = c :: escape bs r := by
  rw [escape]
  simp only [ho]

theorem escape_ne_nil (hs : s ≠ []) : escape bs s ≠ [] := by
  cases s with
  | nil => exact absurd rfl hs
  | cons c r =>
    cases ho : opener? bs (c :: r) with
    | some b =>
      rw [escape_opener ho]
      exact List.cons_ne_nil _ _
    | none =>
      rw [escape_char ho]
      exact List.cons_ne_nil _ _

/-- Where no opener stands there is nothing to mark. -/
theorem escape_eq_self (h : ∀ b ∈ bs, ¬ b.opener <:+: s) : escape bs s = s := by
  fun_induction escape bs s with
  | case1 => rfl
  | case2 c r b hb ih =>
    obtain ⟨hmem, t, ht⟩ := opener?_eq_some hb
    have hpart : b.opener <:+: c :: r := by
      rw [ht]
      exact (List.prefix_append b.opener t).isInfix
    exact absurd hpart (h b hmem)
  | case3 c r ho ih =>
    rw [ih]
    intro b hb hpart
    exact h b hb (hpart.trans (List.suffix_cons c r).isInfix)

/-! ## 2. Marks make no opener -/

/-- A text without marks that a marked text begins with was there before the marks. -/
theorem prefix_of_prefix_escape {p : Text} (hp : escapeMark ∉ p) (h : p <+: escape bs s) :
    p <+: s := by
  fun_induction escape bs s generalizing p with
  | case1 => exact h
  | case2 c r b hb ih =>
    rw [List.cons_append] at h
    rcases List.prefix_cons_iff.1 h with rfl | ⟨q, rfl, -⟩
    · exact List.nil_prefix
    · simp at hp
  | case3 c r ho ih =>
    rcases List.prefix_cons_iff.1 h with rfl | ⟨q, rfl, hq⟩
    · exact List.nil_prefix
    · have hmark : escapeMark ∉ q := fun hmem => hp (List.mem_cons_of_mem c hmem)
      rw [List.prefix_cons_inj]
      exact ih hmark hq

/-- An escaped text starts with nothing new, apart from marks. -/
theorem prefix_append_of_escape {p : Text} (hp : escapeMark ∉ p) (q : Text)
    (h : p <+: q ++ escape bs s) : p <+: q ++ s := by
  induction q generalizing p with
  | nil => exact prefix_of_prefix_escape hp h
  | cons d q ih =>
    rw [List.cons_append] at h ⊢
    rcases List.prefix_cons_iff.1 h with rfl | ⟨p', rfl, hp'⟩
    · exact List.nil_prefix
    · have hmark : escapeMark ∉ p' := fun hmem => hp (List.mem_cons_of_mem d hmem)
      rw [List.prefix_cons_inj]
      exact ih hmark hp'

namespace Tidy

variable (ht : Tidy bs)

include ht

/-- Escaping makes no opener. -/
theorem opener?_append_escape_eq_none (q : Text) (ho : opener? bs (q ++ s) = none) :
    opener? bs (q ++ escape bs s) = none := by
  unfold opener? at ho ⊢
  rw [List.find?_eq_none] at ho ⊢
  intro b hb hpre
  rw [List.isPrefixOf_iff_prefix] at hpre
  have hpre' := prefix_append_of_escape (ht.opener_unmarked b hb) q hpre
  exact ho b hb (List.isPrefixOf_iff_prefix.2 hpre')

/-- The bracket that opens in a text opens in front of what is marked behind its opener, too. -/
theorem opener?_append_escape (hb : opener? bs (b.opener ++ s) = some b) :
    opener? bs (b.opener ++ escape bs s) = some b := by
  unfold opener? at hb ⊢
  rw [List.find?_eq_some_iff_append] at hb ⊢
  obtain ⟨-, before, after, hbs, hbefore⟩ := hb
  refine ⟨List.isPrefixOf_iff_prefix.2 (List.prefix_append _ _), before, after, hbs, ?_⟩
  intro a ha
  have hmem : a ∈ bs := by rw [hbs]; simp [ha]
  have hno : a.opener.isPrefixOf (b.opener ++ s) = false := by
    rw [← Bool.not_eq_true']
    exact hbefore a ha
  rw [Bool.not_eq_true', Bool.eq_false_iff]
  -- a bracket that is preferred to this one would have been found before the marks were put in
  intro hpre
  rw [List.isPrefixOf_iff_prefix] at hpre
  have hpre' := prefix_append_of_escape (ht.opener_unmarked a hmem) b.opener hpre
  rw [← List.isPrefixOf_iff_prefix, hno] at hpre'
  cases hpre'

theorem opener?_escape (s : Text) : opener? bs (escape bs s) = none := by
  cases hb : opener? bs s with
  | some b =>
    rw [escape_opener hb, List.cons_append]
    exact ht.opener?_mark _
  | none => exact ht.opener?_append_escape_eq_none [] hb

/-- A text that has marks of its own before an opener gets one more. -/
theorem escape_replicate (hb : opener? bs s = some b) (n : Nat) :
    escape bs (List.replicate n escapeMark ++ s) =
      List.replicate (n + 1) escapeMark ++ (b.opener ++ escape bs (s.drop b.opener.length)) := by
  induction n with
  | zero => exact escape_opener hb
  | succ n ih =>
    rw [List.replicate_succ, List.cons_append, escape_char (ht.opener?_mark _), ih]
    rfl

/-! ## 3. Marks are taken out again -/

/-- An escaped text is one literal run, which stands for the text. -/
theorem run_escape (s : Text) : run bs (escape bs s) = ⟨s, escape bs s⟩ := by
  -- the run goes as far in the marked text as the walk goes in the text
  fun_induction escape bs s with
  | case1 => rw [run]
  | case2 c r b hb ih =>
    obtain ⟨-, t, htext⟩ := opener?_eq_some hb
    rw [htext, List.drop_left] at ih ⊢
    rw [htext] at hb
    have he : escaped? bs (escapeMark :: (b.opener ++ escape bs t)) = some b := by
      rw [escaped?_cons, if_pos rfl]
      exact ht.opener?_append_escape hb
    rw [List.cons_append, run_escaped he, List.drop_left, ih]
    rfl
  | case3 c r ho ih =>
    have ho' : opener? bs (c :: escape bs r) = none := ht.opener?_append_escape_eq_none [c] ho
    have he : escaped? bs (c :: escape bs r) = none := by
      rw [escaped?_cons, ht.opener?_escape, ite_self]
    rw [run_char he ho', ih]

theorem cut_escape (hs : s ≠ []) (line : Nat) :
    cut bs line (escape bs s) = ⟨[.literal s (escape bs s)], none⟩ := by
  rw [cut_run (escape_ne_nil hs) (ht.opener?_escape s), ht.run_escape, List.drop_length]
  simp only [cut]

end Tidy

theorem opener?_of_mem (v : Version) (hb : b ∈ v.brackets) (s : Text) :
    opener? v.brackets (b.opener ++ s) = some b := by
  -- no opener of a version begins with another one
  cases v with
  | v1 =>
    simp only [Version.brackets, List.mem_singleton] at hb
    subst hb
    rfl
  | v2 =>
    simp only [Version.brackets, List.mem_cons, List.not_mem_nil, or_false] at hb
    rcases hb with rfl | rfl <;> rfl

end Brackets

namespace Template

variable {v : Version} {vars : Bindings} {look : Lookup} {s t : Text}

/-! ## 4. Reading and injecting -/

/-- An escaped text is read as the text and nothing else. -/
theorem parse_escape_eq (v : Version) (t : Text) :
    parse v (v.brackets.escape t) = .ok (literal t) := by
  have ht := Brackets.tidy_brackets v
  by_cases hnil : t = []
  · subst hnil
    rw [Brackets.escape_nil, parse_nil]
    rfl
  · have hpieces : Pieces.ofText v.brackets (v.brackets.escape t) =
        ⟨[.literal t (v.brackets.escape t)], none⟩ := ht.cut_escape hnil 1
    have hliteral : literal t = ⟨[.literal t]⟩ := by
      rw [literal, if_neg (by simpa using hnil)]
    show readWith v.brackets (some (readDeep v.brackets 1)) (v.brackets.escape t) = _
    rw [readWith, hpieces, hliteral]
    rfl

theorem rendered_literal (vars : Bindings) (values : Text → Bytes) (t : Text) :
    (literal t).rendered vars values = t := by
  cases t <;> simp [literal, rendered, Segment.rendered]

/-- A text that is read as a plain text is injected without a question. -/
theorem inject_of_literal (hvars : ∀ n ∈ vars.keys, Text.isName n = true) (look : Lookup)
    (h : parse v s = .ok (literal t)) :
    SecretWeave.inject v vars look s = ⟨[], .ok t⟩ := by
  have hfill : ∀ g ∈ (literal t).segments, g.Fillable vars := by
    cases t <;> simp [literal, Segment.Fillable]
  have hdemand : (literal t).demand vars = [] := by
    cases t <;> rfl
  rw [inject_eq_ask h (inject_of_fillable (badName?_eq_none_iff.2 hvars) hfill), hdemand,
    rendered_literal]
  rfl

/-- Every text can be written as a template. With a mark before each opener it is read as plain text
and injected as it is, and no source is asked. A text without openers needs no marks, and marks that
it has of its own before an opener are kept by one more. -/
theorem parse_escape (v : Version) (t : Text) :
    parse v (v.brackets.escape t) = .ok (literal t) ∧
    (∀ vars : Bindings, (∀ n ∈ vars.keys, Text.isName n = true) → ∀ look : Lookup,
      SecretWeave.inject v vars look (v.brackets.escape t) = ⟨[], .ok t⟩) ∧
    ((∀ b ∈ v.brackets, ¬ b.opener <:+: t) →
      parse v t = .ok (literal t) ∧
      ∀ vars : Bindings, (∀ n ∈ vars.keys, Text.isName n = true) → ∀ look : Lookup,
        SecretWeave.inject v vars look t = ⟨[], .ok t⟩) ∧
    ∀ n, ∀ b ∈ v.brackets,
      v.brackets.escape (List.replicate n Brackets.escapeMark ++ (b.opener ++ t)) =
        List.replicate (n + 1) Brackets.escapeMark ++ (b.opener ++ v.brackets.escape t) := by
  refine ⟨parse_escape_eq v t, ?_, ?_, ?_⟩
  · intro vars hvars look
    exact inject_of_literal hvars look (parse_escape_eq v t)
  · intro hnone
    have hparse := parse_escape_eq v t
    rw [Brackets.escape_eq_self hnone] at hparse
    exact ⟨hparse, fun vars hvars look => inject_of_literal hvars look hparse⟩
  · intro n b hb
    rw [(Brackets.tidy_brackets v).escape_replicate (Brackets.opener?_of_mem v hb t),
      List.drop_left]

-- the text's own mark stays, and of three braces the first two are an opener
example : Version.v2.brackets.escape "\\$\x7bx\x7d \x7b\x7b\x7b".toList =
    "\\\\$\x7bx\x7d \\\x7b\x7b\x7b".toList := by
  decide +kernel

end Template

end SecretWeave
