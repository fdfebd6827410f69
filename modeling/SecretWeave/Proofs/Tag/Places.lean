import Mathlib.Data.List.TakeWhile
import SecretWeave.Proofs.Tag.Joining
import SecretWeave.Proofs.Template.Nesting

/-!
# Where tags stand

The tags of a text stand at places of it, counted in characters (`tags`), and what a tag holds is cut
into tags once more, without the blanks around it. All of them together are the tags of the text with
the tags inside them (`forest`). Escaped openers, closed tags and single characters can be taken away
from the start of a text without a change to the tags behind them, and so can the blanks at the ends
of a text that leaves no tag open (`forest_trim`).
-/

namespace SecretWeave

structure PlacedTag where
  bracket : Bracket
  place : Nat
  content : Text

namespace PlacedTag

def start (t : PlacedTag) : Nat :=
  t.place + t.bracket.opener.length

def solidStart (t : PlacedTag) : Nat :=
  t.start + (Text.indentation t.content).length

def stop (t : PlacedTag) : Nat :=
  t.start + t.content.length

/-- The tags among consecutive pieces, of which the first stands at `place`. -/
def ofPieces (place : Nat) : List Piece → List PlacedTag
  | [] => []
  | .literal _ raw :: ps => ofPieces (place + raw.length) ps
  | .tag b content raw _ :: ps => ⟨b, place, content⟩ :: ofPieces (place + raw.length) ps

theorem exists_piece_of_mem {t : PlacedTag} {place : Nat} {ps : List Piece}
    (h : t ∈ ofPieces place ps) : ∃ raw line, .tag t.bracket t.content raw line ∈ ps := by
  induction ps generalizing place with
  | nil => cases h
  | cons p ps ih =>
    cases p with
    | literal text raw =>
      obtain ⟨raw', line, hmem⟩ := ih h
      exact ⟨raw', line, List.mem_cons_of_mem _ hmem⟩
    | tag b content raw line =>
      rcases List.mem_cons.1 h with rfl | h
      · exact ⟨raw, line, List.mem_cons_self⟩
      · obtain ⟨raw', line', hmem⟩ := ih h
        exact ⟨raw', line', List.mem_cons_of_mem _ hmem⟩

theorem ofPieces_moved (place k : Nat) (ps : List Piece) :
    ofPieces place (ps.map (Piece.moved k)) = ofPieces place ps := by
  induction ps generalizing place with
  | nil => rfl
  | cons p ps ih => cases p <;> simp only [List.map_cons, Piece.moved, ofPieces, ih]

end PlacedTag

/-- A tag, the places of its opener and its closer, and the tags directly inside it. -/
inductive TagTree where
  | node (bracket : Bracket) (opened closed : Nat) (inside : List TagTree)

namespace Brackets

variable {bs : Brackets} {b : Bracket} {s : Text} {n : Nat}

def tags (bs : Brackets) (place : Nat) (s : Text) : List PlacedTag :=
  PlacedTag.ofPieces place (Pieces.ofText bs s).pieces

/-- The tags of a text that starts at `place`, each with the tags found by cutting its content from
scratch, without the blanks around it. -/
def forest (bs : Brackets) (place : Nat) (s : Text) : List TagTree :=
  (bs.tags place s).attach.map fun t =>
    .node t.1.bracket t.1.place t.1.stop (forest bs t.1.solidStart (Text.trim t.1.content))
termination_by s.length
decreasing_by
  obtain ⟨raw, line, hmem⟩ := PlacedTag.exists_piece_of_mem t.2
  exact length_trim_lt hmem

theorem forest_eq (bs : Brackets) (place : Nat) (s : Text) :
    bs.forest place s = (bs.tags place s).map fun t =>
      .node t.bracket t.place t.stop (bs.forest t.solidStart (Text.trim t.content)) := by
  rw [forest]
  exact List.attach_map_val (l := bs.tags place s) (f := fun t =>
    TagTree.node t.bracket t.place t.stop (bs.forest t.solidStart (Text.trim t.content)))

/-! ## 1. Tags from the start of a text -/

@[simp] theorem tags_nil (bs : Brackets) (place : Nat) : bs.tags place [] = [] := by
  simp [tags, Pieces.ofText, cut, PlacedTag.ofPieces]

@[simp] theorem forest_nil (bs : Brackets) (place : Nat) : forest bs place [] = [] := by
  rw [forest_eq, tags_nil, List.map_nil]

theorem ofPieces_cut (bs : Brackets) (place k : Nat) (s : Text) :
    PlacedTag.ofPieces place (bs.cut (1 + k) s).pieces = bs.tags place s := by
  rw [cut_add, PlacedTag.ofPieces_moved]
  rfl

section Tidy

variable (ht : Tidy bs)

include ht

/-- A text that starts with a tag has this one and those behind it. -/
theorem Tidy.tags_tag (hb : opener? bs s = some b)
    (hn : closer? bs b (s.drop b.opener.length) = some n) (place : Nat) :
    bs.tags place s = ⟨b, place, (s.drop b.opener.length).take n⟩ ::
      bs.tags (place + (b.opener.length + n + b.closer.length))
        (s.drop (b.opener.length + n + b.closer.length)) := by
  have hlen := ht.length_tag_le hb hn
  unfold tags Pieces.ofText
  rw [cut_tag hb hn rfl, PlacedTag.ofPieces, ofPieces_cut, List.length_take, Nat.min_eq_left hlen]
  rfl

/-- A literal run holds no tags. -/
theorem Tidy.tags_drop_run (place : Nat) (s : Text) :
    bs.tags place s = bs.tags (place + (run bs s).raw.length) (s.drop (run bs s).raw.length) := by
  cases ho : opener? bs s with
  | some b => rw [run_of_opener? ht ho]; rfl
  | none =>
    by_cases hs : s = []
    · subst hs
      rw [run]
      rfl
    · show PlacedTag.ofPieces place (bs.cut 1 s).pieces = _
      rw [cut_run hs ho, PlacedTag.ofPieces, ofPieces_cut]

theorem Tidy.tags_escaped (he : escaped? bs s = some b) (place : Nat) :
    bs.tags place s =
      bs.tags (place + (1 + b.opener.length)) (s.drop (1 + b.opener.length)) := by
  cases s with
  | nil => cases he
  | cons c r =>
    rw [drop_mark, ht.tags_drop_run place, ht.tags_drop_run _ (r.drop b.opener.length),
      run_escaped he, drop_cons_append]
    congr 1
    simp only [List.cons_append, List.length_cons, List.length_append]
    omega

theorem Tidy.tags_char {c : Char} {r : Text} (he : escaped? bs (c :: r) = none)
    (ho : opener? bs (c :: r) = none) (place : Nat) :
    bs.tags place (c :: r) = bs.tags (place + 1) r := by
  rw [ht.tags_drop_run place, ht.tags_drop_run (place + 1) r, run_char he ho, List.length_cons,
    List.drop_succ_cons]
  congr 1
  omega

/-! ## 2. Blanks around a text -/

/-- Blanks in front of a text hold no tags. -/
theorem Tidy.tags_trimStart (place : Nat) (s : Text) :
    bs.tags place s = bs.tags (place + (Text.indentation s).length) (Text.trimStart s) := by
  induction s generalizing place with
  | nil => rfl
  | cons c r ih =>
    unfold Text.indentation Text.trimStart at ih ⊢
    by_cases hc : Text.isBlank c = true
    · rw [List.takeWhile_cons_of_pos hc, List.dropWhile_cons_of_pos hc,
        ht.tags_char (escaped?_of_blank bs hc r) (ht.opener?_of_blank hc r), ih, List.length_cons]
      congr 1
      omega
    · rw [List.takeWhile_cons_of_neg hc, List.dropWhile_cons_of_neg hc]
      rfl

theorem Tidy.tags_of_blank {s : Text} (hs : ∀ c ∈ s, Text.isBlank c = true) (place : Nat) :
    bs.tags place s = [] := by
  have htrim : Text.trimStart s = [] := List.dropWhile_eq_nil_iff.2 hs
  rw [ht.tags_trimStart, htrim, tags_nil]

/-- Blanks behind a balanced text hold no tags. -/
theorem Tidy.tags_of_append {s trail : Text} (htrail : ∀ c ∈ trail, Text.isBlank c = true)
    (h : Balanced bs (s ++ trail)) (place : Nat) : bs.tags place (s ++ trail) = bs.tags place s := by
  generalize htext : s ++ trail = text at h
  induction h generalizing s place with
  | nil => rw [(List.append_eq_nil_iff.1 htext).1]
  | @escaped text b he rest ih =>
    subst htext
    obtain ⟨hlen, he'⟩ := ht.escaped?_of_append htrail he
    have hdrop : (s ++ trail).drop (1 + b.opener.length) = s.drop (1 + b.opener.length) ++ trail :=
      List.drop_append_of_le_length hlen
    rw [ht.tags_escaped he, ht.tags_escaped he', ih _ hdrop.symm]
  | @tag text b n hb hn rest ih =>
    subst htext
    obtain ⟨hlen, hb', hn'⟩ := ht.tag_of_append htrail hb hn
    have hdrop : (s ++ trail).drop (b.opener.length + n + b.closer.length) =
        s.drop (b.opener.length + n + b.closer.length) ++ trail :=
      List.drop_append_of_le_length hlen
    have hopen : b.opener.length ≤ s.length := by omega
    have hbody : n ≤ (s.drop b.opener.length).length := by
      rw [List.length_drop]
      omega
    rw [ht.tags_tag hb hn, ht.tags_tag hb' hn', ih _ hdrop.symm,
      List.drop_append_of_le_length hopen, List.take_append_of_le_length hbody]
  | @char c r he ho rest ih =>
    cases s with
    -- the character is one of the blanks
    | nil =>
      rw [List.nil_append] at htext
      rw [ht.tags_of_blank (htext ▸ htrail), tags_nil]
    | cons d s =>
      obtain ⟨rfl, hr⟩ := List.cons.inj htext
      replace hr : s ++ trail = r := hr
      subst hr
      have he' := escaped?_take_eq_none he (d :: s).length
      have ho' := opener?_take_eq_none ho (d :: s).length
      rw [← List.cons_append, List.take_left] at he' ho'
      rw [ht.tags_char he ho, ht.tags_char he' ho', ih _ rfl]

/-- A trimmed text has the same tags inside one another, shifted by what was in front. -/
theorem Tidy.forest_trim (h : Balanced bs s) (place : Nat) :
    bs.forest place s =
      bs.forest (place + (Text.indentation s).length) (Text.trim s) := by
  obtain ⟨trail, hstart, htrail⟩ := exists_trimEnd_append (Text.trimStart s)
  have hbal := ht.balanced_trimStart h
  rw [hstart] at hbal
  have htags : bs.tags place s =
      bs.tags (place + (Text.indentation s).length) (Text.trim s) := by
    rw [ht.tags_trimStart, hstart, ht.tags_of_append htrail hbal]
    rfl
  rw [forest_eq, htags, ← forest_eq]

/-! ## 3. Tags of a text cut short -/

theorem Tidy.forest_take_escaped (he : escaped? bs s = some b) (place k : Nat) :
    bs.forest place (s.take (k + (1 + b.opener.length))) =
      bs.forest (place + (1 + b.opener.length)) ((s.drop (1 + b.opener.length)).take k) := by
  have he' := escaped?_take he (m := k + (1 + b.opener.length)) (by omega)
  rw [forest_eq, ht.tags_escaped he', ← forest_eq, List.drop_take, Nat.add_sub_cancel]

theorem Tidy.forest_take_char {c : Char} {r : Text} (he : escaped? bs (c :: r) = none)
    (ho : opener? bs (c :: r) = none) (place k : Nat) :
    bs.forest place ((c :: r).take (k + 1)) = bs.forest (place + 1) (r.take k) := by
  have he' := escaped?_take_eq_none he (k + 1)
  have ho' := opener?_take_eq_none ho (k + 1)
  rw [List.take_succ_cons] at he' ho' ⊢
  rw [forest_eq, ht.tags_char he' ho', ← forest_eq]

/-- What is inside a tag is found in its content as it is written. -/
theorem Tidy.forest_take_tag (hb : opener? bs s = some b)
    (hn : closer? bs b (s.drop b.opener.length) = some n) (place k : Nat) :
    bs.forest place (s.take (k + (b.opener.length + n + b.closer.length))) =
      .node b place (place + b.opener.length + n)
          (bs.forest (place + b.opener.length) ((s.drop b.opener.length).take n)) ::
        bs.forest (place + (b.opener.length + n + b.closer.length))
          ((s.drop (b.opener.length + n + b.closer.length)).take k) := by
  have hlen := ht.length_tag_le hb hn
  have hbody : ((s.drop b.opener.length).take n).length = n := by
    rw [List.length_take, List.length_drop]
    omega
  have hinside := ht.forest_trim (ht.balanced_take hn) (place + b.opener.length)
  generalize hsize : b.opener.length + n + b.closer.length = size
  obtain ⟨hb', hn'⟩ := ht.tag_take hb hn (show _ ≤ k + size by omega)
  have hcontent : ((s.take (k + size)).drop b.opener.length).take n =
      (s.drop b.opener.length).take n := by
    rw [List.drop_take, List.take_take, Nat.min_eq_left (by omega)]
  rw [forest_eq, ht.tags_tag hb' hn', List.map_cons, ← forest_eq, hcontent, hsize, List.drop_take,
    Nat.add_sub_cancel, hinside]
  unfold PlacedTag.stop PlacedTag.solidStart PlacedTag.start
  rw [hbody]

end Tidy

end Brackets

end SecretWeave
