import SecretWeave.Inject
import SecretWeave.Proofs.EnvFile.Lines
import SecretWeave.Proofs.Tag.Agreeing

/-!
# Where versions agree

The second version of the syntax adds double braces to the first and takes nothing away. A text
without two braces in a row is the same template in every version, or is refused for the same
reason on the same line; and so are the env files and the injected texts that are made of such
texts (`versions_agree`).
-/

namespace SecretWeave

variable {v w : Version} {s : Text}

/-! ## 1. Parts of a text -/

namespace Text

theorem isInfix_trim (s : Text) : trim s <:+: s := by
  obtain ⟨trail, hs⟩ := Brackets.exists_trim_append s
  exact ⟨_, trail, hs.symm⟩

theorem isPrefix_dropReturn (l : Text) : dropReturn l <+: l := by
  unfold dropReturn
  split
  · exact List.dropLast_prefix l
  · exact List.prefix_rfl

theorem isInfix_of_lines {ls : List Text} (h : Lines s ls) : ∀ l ∈ ls, l <:+: s := by
  induction h with
  | nil => simp
  | last => simp
  | @cons l r ls _ _ ih =>
    rw [List.forall_mem_cons]
    have hline : l <:+: l ++ '\n' :: r := (List.prefix_append l _).isInfix
    have hrest : r <:+: l ++ '\n' :: r := ((List.suffix_cons '\n' r).trans
      (List.suffix_append l _)).isInfix
    exact ⟨(isPrefix_dropReturn l).isInfix.trans hline, fun x hx => (ih x hx).trans hrest⟩

end Text

/-! ## 2. Templates -/

namespace Brackets

/-- Where there are no double braces, a version looks for a dollar sign and a brace only. -/
theorem opener?_of_not_braces (v : Version) (h : ¬ Bracket.braces.opener <+: s) :
    v.brackets.opener? s = opener? [Bracket.dollar] s := by
  cases v with
  | v1 => rfl
  | v2 =>
    have hbraces : Bracket.braces.opener.isPrefixOf s = false := by
      rwa [← Bool.not_eq_true, List.isPrefixOf_iff_prefix]
    simp only [opener?, Version.brackets, List.find?_cons, hbraces]

theorem sameOpeners_of_not_braces (v w : Version) (h : ¬ Bracket.braces.opener <:+: s) :
    SameOpeners v.brackets w.brackets s := by
  intro t ht
  have hpre : ¬ Bracket.braces.opener <+: t := fun hpre => h (hpre.isInfix.trans ht)
  rw [opener?_of_not_braces v hpre, opener?_of_not_braces w hpre]

/-- What a tag holds is part of the text. -/
theorem isInfix_trim_of_mem {bs : Brackets} {b : Bracket} {content raw : Text} {line : Nat}
    (h : .tag b content raw line ∈ (Pieces.ofText bs s).pieces) : Text.trim content <:+: s := by
  obtain ⟨before, after, hps⟩ := List.append_of_mem h
  obtain ⟨-, rest, hs⟩ := eq_append_of_pieces hps
  have hcontent : content <:+: s := by
    refine ⟨before.flatMap Piece.raw ++ b.opener, b.closer ++ rest, ?_⟩
    rw [hs]
    simp only [List.append_assoc]
  exact (Text.isInfix_trim content).trans hcontent

end Brackets

namespace Template

/-- Tables that see the same openers in a text read it as the same template at every depth. -/
theorem readDeep_of_sameOpeners {bs bs' : Brackets} (h : Brackets.SameOpeners bs bs' s) (n : Nat) :
    readDeep bs n s = readDeep bs' n s := by
  induction n generalizing s with
  | zero => rw [readDeep, readDeep, readWith, readWith, Brackets.ofText_of_sameOpeners h]
  | succ n ih =>
    -- what the tags hold is part of the text, so the tables agree on it too
    have hinner : readWith bs (some (readDeep bs n)) s = readWith bs (some (readDeep bs' n)) s := by
      apply readWith_congr
      intro b content raw line hp
      exact ih (h.of_isInfix (Brackets.isInfix_trim_of_mem hp))
    rw [readDeep, readDeep, hinner, readWith, readWith, Brackets.ofText_of_sameOpeners h]

/-- A text without double braces is read in the same way in every version. -/
theorem parse_of_not_braces (v w : Version) (h : ¬ Bracket.braces.opener <:+: s) :
    parse v s = parse w s :=
  readDeep_of_sameOpeners (Brackets.sameOpeners_of_not_braces v w h) maxDepth

end Template

/-! ## 3. Env files -/

namespace EnvFile

/-- The value that a line gives is part of the line. -/
theorem isInfix_of_assignment? {line key value : Text} (h : assignment? line = some (key, value)) :
    value <:+: line := by
  unfold assignment? at h
  split at h
  · cases h
  · obtain ⟨⟨k, t⟩, hcut, he⟩ := Option.map_eq_some_iff.1 h
    obtain ⟨-, rfl⟩ := Prod.mk.inj he
    obtain ⟨htrim, -⟩ := Text.eq_of_cut? hcut
    have hvalue : t <:+: Text.trim line := by
      rw [htrim]
      exact ((List.suffix_cons '=' t).trans (List.suffix_append k _)).isInfix
    exact (Text.isInfix_trim t).trans (hvalue.trans (Text.isInfix_trim line))

/-- A line without double braces is read alike in both versions. -/
theorem readLine_of_not_braces (v w : Version) {line : Text}
    (h : ¬ Bracket.braces.opener <:+: line) : readLine v line = readLine w line := by
  cases hs : silent line with
  | true => rw [readLine_of_silent hs, readLine_of_silent hs]
  | false =>
    rw [readLine_of_not_silent hs, readLine_of_not_silent hs]
    cases hline : assignment? line with
    | none => rfl
    | some p =>
      obtain ⟨key, value⟩ := p
      have hvalue : ¬ Bracket.braces.opener <:+: value :=
        fun hin => h (hin.trans (isInfix_of_assignment? hline))
      simp only [Template.parse_of_not_braces v w hvalue]

theorem readLines_congr {ls : List Text} (h : ∀ line ∈ ls, readLine v line = readLine w line)
    (n : Nat) (m : OrderedMap Text Template) : readLines v n m ls = readLines w n m ls := by
  induction ls generalizing n m with
  | nil => rfl
  | cons line ls ih =>
    rw [List.forall_mem_cons] at h
    simp only [readLines, h.1, ih h.2]

/-- A file without double braces is read alike in both versions. -/
theorem parseLines_of_not_braces (v w : Version) (h : ¬ Bracket.braces.opener <:+: s) :
    parseLines v s = parseLines w s := by
  unfold parseLines
  rw [readLines_congr]
  intro line hline
  have hin := Text.isInfix_of_lines (Text.lines_lines s) line hline
  exact readLine_of_not_braces v w fun hbraces => h (hbraces.trans hin)

theorem readPairs_congr {pairs : List (Yaml.Value × Yaml.Value)}
    (h : ∀ pair ∈ pairs, readPair v pair = readPair w pair) (m : OrderedMap Text Template) :
    readPairs v m pairs = readPairs w m pairs := by
  induction pairs generalizing m with
  | nil => rfl
  | cons pair pairs ih =>
    rw [List.forall_mem_cons] at h
    simp only [readPairs, h.1, ih h.2]

def valueTexts (s : Text) : List Text :=
  match Yaml.load s with
  | .ok (.mapping pairs) => pairs.filterMap fun pair => scalarText? pair.2
  | _ => []

/-- A document whose values hold no double braces is read alike in both versions. -/
theorem parseYaml_of_not_braces (v w : Version)
    (h : ∀ t ∈ valueTexts s, ¬ Bracket.braces.opener <:+: t) : parseYaml v s = parseYaml w s := by
  unfold parseYaml
  unfold valueTexts at h
  split
  · rfl
  · rename_i value hload
    simp only [hload] at h
    have hvalue : ofValue v value = ofValue w value := by
      cases value with
      | mapping pairs =>
        refine readPairs_congr ?_ ∅
        intro pair hpair
        unfold readPair
        cases ht : scalarText? pair.2 with
        | none => rfl
        | some t =>
          -- only the texts of the values are parsed
          have hbraces := h t (List.mem_filterMap.2 ⟨pair, hpair, ht⟩)
          simp only [Template.parse_of_not_braces v w hbraces]
      | _ => rfl
    rw [hvalue]

end EnvFile

/-! ## 4. Agreement -/

/-- Any two versions, the newest included, do the same with a text that has no double braces: they
read the same template or refuse the text with the same fault on the same line, they read the same
env file from its lines, and they put in the same values and secrets after asking for the same
paths. They do the same with a document if no text that its values stand for has double braces. -/
theorem versions_agree (v w : Version) :
    (∀ s, ¬ Bracket.braces.opener <:+: s →
      Template.parse v s = Template.parse w s ∧ EnvFile.parseLines v s = EnvFile.parseLines w s ∧
        ∀ vars look, inject v vars look s = inject w vars look s) ∧
    ∀ s, (∀ t ∈ EnvFile.valueTexts s, ¬ Bracket.braces.opener <:+: t) →
      EnvFile.parseYaml v s = EnvFile.parseYaml w s := by
  refine ⟨?_, fun s h => EnvFile.parseYaml_of_not_braces v w h⟩
  intro s h
  have hparse := Template.parse_of_not_braces v w h
  refine ⟨hparse, EnvFile.parseLines_of_not_braces v w h, ?_⟩
  intro vars look
  unfold inject prepare
  rw [hparse]

/-- A tag in a dollar sign and a brace is the same in both versions, alone and in a document. -/
theorem versions_agree_dollar_tag :
    ¬ Bracket.braces.opener <:+: "${ a }".toList ∧
      Template.parse .v1 "${ a }".toList = Template.parse .v2 "${ a }".toList ∧
      EnvFile.parseYaml .v1 "k: ${ a }".toList = EnvFile.parseYaml .v2 "k: ${ a }".toList := by
  have hbraces : ¬ Bracket.braces.opener <:+: "${ a }".toList := by decide
  have hvalues : EnvFile.valueTexts "k: ${ a }".toList = ["${ a }".toList] := by
    decide +kernel
  obtain ⟨htexts, hdocuments⟩ := versions_agree .v1 .v2
  refine ⟨hbraces, (htexts _ hbraces).1, hdocuments _ ?_⟩
  intro t ht
  rw [hvalues, List.mem_singleton] at ht
  exact ht ▸ hbraces

end SecretWeave
