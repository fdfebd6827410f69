import Mathlib.Data.List.Find
import SecretWeave.Proofs.Fusing
import SecretWeave.Proofs.Tag.Partition

/-!
# Pieces of joined texts

Where two texts are joined by a blank, neither an opener nor a closer nor an escape mark can reach
over the blank. So a closed tag of the first text stays what it is (`exists_cut_join`), and if all
its tags are closed, the pieces of the joined text are those of the first text, the blank and those
of the second, with runs that meet as one run (`cut_join`).
-/

namespace SecretWeave

namespace Piece

def fuse? : Piece → Piece → Option Piece
  | .literal t raw, .literal t' raw' => some (.literal (t ++ t') (raw ++ raw'))
  | _, _ => none

theorem fuse?_eq_none_iff {p q : Piece} : p.fuse? q = none ↔ p.Apart q := by
  cases p <;> cases q <;> simp [fuse?, Apart]

theorem fuseOnto_tag (b : Bracket) (content raw : Text) (line : Nat) (ps : List Piece) :
    fuseOnto fuse? (.tag b content raw line) ps = .tag b content raw line :: ps := by
  cases ps <;> rfl

theorem fuseOnto_literal_literal (text raw text' raw' : Text) (ps : List Piece) :
    fuseOnto fuse? (.literal text raw) (fuseOnto fuse? (.literal text' raw') ps) =
      fuseOnto fuse? (.literal (text ++ text') (raw ++ raw')) ps := by
  cases ps with
  | nil => rfl
  | cons p ps => cases p <;> simp [fuseOnto, fuse?]

def moved (k : Nat) : Piece → Piece
  | .literal text raw => .literal text raw
  | .tag b content raw line => .tag b content raw (line + k)

end Piece

namespace Brackets

variable {bs : Brackets} {b : Bracket} {c : Char} {s t : Text} {line : Nat}

/-! ## 1. Locality -/

/-- What holds no blank is found before a blank or not at all. -/
theorem prefix_append_blank_iff {p : Text} (hp : ∀ d ∈ p, Text.isBlank d = false)
    (hc : Text.isBlank c = true) (s t : Text) : p <+: s ++ c :: t ↔ p <+: s := by
  constructor
  · intro h
    rw [List.append_cons] at h
    rcases List.prefix_or_prefix_of_prefix h (List.prefix_append (s ++ [c]) t) with h | h
    · rcases List.prefix_concat_iff.1 h with rfl | h
      -- with the blank itself it would hold one
      · cases hc.symm.trans (hp c (by simp))
      · exact h
    · cases hc.symm.trans (hp c (h.subset (by simp)))
  · intro h
    exact h.trans (List.prefix_append s _)

theorem isPrefixOf_append_blank {p : Text} (hp : ∀ d ∈ p, Text.isBlank d = false)
    (hc : Text.isBlank c = true) (s t : Text) : p.isPrefixOf (s ++ c :: t) = p.isPrefixOf s := by
  rw [Bool.eq_iff_iff, List.isPrefixOf_iff_prefix, List.isPrefixOf_iff_prefix]
  exact prefix_append_blank_iff hp hc s t

theorem length_opener_le (hb : opener? bs s = some b) : b.opener.length ≤ s.length := by
  obtain ⟨-, r, rfl⟩ := opener?_eq_some hb
  exact (List.prefix_append b.opener r).length_le

theorem length_opener_le_of_escaped? {d : Char} {r : Text} (he : escaped? bs (d :: r) = some b) :
    b.opener.length ≤ r.length := by
  obtain ⟨-, u, hu⟩ := escaped?_eq_some he
  obtain ⟨-, hr⟩ := List.cons.inj hu
  rw [hr]
  exact (List.prefix_append b.opener u).length_le

theorem run_escaped {d : Char} {r : Text} (he : escaped? bs (d :: r) = some b) :
    run bs (d :: r) = ⟨b.opener ++ (run bs (r.drop b.opener.length)).text,
      d :: b.opener ++ (run bs (r.drop b.opener.length)).raw⟩ := by
  rw [run]
  simp only [he]

theorem run_opener {d : Char} {r : Text} (he : escaped? bs (d :: r) = none)
    (hb : opener? bs (d :: r) = some b) : run bs (d :: r) = ⟨[], []⟩ := by
  rw [run]
  simp only [he, hb]

theorem run_char {d : Char} {r : Text} (he : escaped? bs (d :: r) = none)
    (ho : opener? bs (d :: r) = none) :
    run bs (d :: r) = ⟨d :: (run bs r).text, d :: (run bs r).raw⟩ := by
  rw [run]
  simp only [he, ho]

theorem cut_run (hs : s ≠ []) (ho : opener? bs s = none) (line : Nat) :
    cut bs line s =
      ⟨.literal (run bs s).text (run bs s).raw ::
          (cut bs (line + Text.newlines (run bs s).raw) (s.drop (run bs s).raw.length)).pieces,
        (cut bs (line + Text.newlines (run bs s).raw) (s.drop (run bs s).raw.length)).fault⟩ := by
  cases s with
  | nil => exact absurd rfl hs
  | cons d r =>
    rw [cut.eq_def]
    dsimp only
    split
    · rename_i b hb
      rw [hb] at ho
      cases ho
    · rfl

theorem fused_cut (bs : Brackets) (line : Nat) (s : Text) :
    fused Piece.fuse? (cut bs line s).pieces = (cut bs line s).pieces := by
  apply fused_of_isChain
  simp only [Piece.fuse?_eq_none_iff]
  exact isChain_cut bs line s

theorem run_of_opener? (ht : Tidy bs) (hb : opener? bs s = some b) : run bs s = ⟨[], []⟩ := by
  cases s with
  | nil => rw [run]
  | cons d r => exact run_opener (ht.escaped?_eq_none hb) hb

/-- A literal run in front of a text fuses with the run that the text starts with. -/
theorem fuseOnto_cut (ht : Tidy bs) (text raw : Text) (line : Nat) (s : Text) :
    fuseOnto Piece.fuse? (.literal text raw) (cut bs line s).pieces =
        .literal (text ++ (run bs s).text) (raw ++ (run bs s).raw) ::
          (cut bs (line + Text.newlines (run bs s).raw) (s.drop (run bs s).raw.length)).pieces ∧
      (cut bs line s).fault =
        (cut bs (line + Text.newlines (run bs s).raw) (s.drop (run bs s).raw.length)).fault := by
  cases hb : opener? bs s with
  | some b =>
    rw [run_of_opener? ht hb, fuseOnto_eq_cons]
    · simp
    · simp only [Piece.fuse?_eq_none_iff]
      exact apart_of_opener? hb line _
  | none =>
    by_cases hnil : s = []
    · subst hnil
      simp [run, cut, fuseOnto]
    · rw [cut_run hnil hb]
      exact ⟨rfl, rfl⟩

theorem newlines_append_split {p q : Text} (h : p ++ q = s) (u : Text) :
    Text.newlines p + Text.newlines (q ++ u) = Text.newlines (s ++ u) := by
  rw [← Text.newlines_append, ← List.append_assoc, h]

section Join

variable (ht : Tidy bs) (hc : Text.isBlank c = true)

include ht hc

theorem opener?_join (s t : Text) : opener? bs (s ++ c :: t) = opener? bs s :=
  List.find?_congr fun b hb => isPrefixOf_append_blank (ht.opener_solid b hb) hc s t

theorem escaped?_join (s t : Text) : escaped? bs (s ++ c :: t) = escaped? bs s := by
  cases s with
  | nil => exact escaped?_of_blank bs hc t
  | cons d r => rw [List.cons_append, escaped?_cons, escaped?_cons, opener?_join ht hc]

/-- A tag that is closed in the first text closes at the same place in the joined one. -/
theorem closeAt?_join {owed : Text} {outer : List Text} {n : Nat}
    (hsolid : ∀ x ∈ owed :: outer, ∀ d ∈ x, Text.isBlank d = false)
    (h : closeAt? bs owed outer s = some n) (t : Text) :
    closeAt? bs owed outer (s ++ c :: t) = some n := by
  -- each step of the search sees the same in the joined text, and goes on in the first text
  fun_induction closeAt? bs owed outer s generalizing n with
  | case1 => cases h
  | case2 owed outer d r b he ih =>
    obtain ⟨k, hk, rfl⟩ := Option.map_eq_some_iff.1 h
    have he' := (escaped?_join ht hc (d :: r) t).trans he
    rw [List.cons_append] at he' ⊢
    rw [closeAt?_escaped he', List.drop_append_of_le_length (length_opener_le_of_escaped? he),
      ih hsolid hk]
    rfl
  | case3 owed d r he ho =>
    obtain rfl := Option.some.inj h
    have he' := (escaped?_join ht hc (d :: r) t).trans he
    have ho' := (isPrefixOf_append_blank (hsolid owed (by simp)) hc (d :: r) t).trans ho
    rw [List.cons_append] at he' ho' ⊢
    exact closeAt?_last he' ho'
  | case4 owed d r he ho next rest ih =>
    obtain ⟨k, hk, rfl⟩ := Option.map_eq_some_iff.1 h
    have he' := (escaped?_join ht hc (d :: r) t).trans he
    have ho' := (isPrefixOf_append_blank (hsolid owed (by simp)) hc (d :: r) t).trans ho
    have hlen : owed.length ≤ (d :: r).length := (List.isPrefixOf_iff_prefix.1 ho).length_le
    have hdrop : (d :: r ++ c :: t).drop owed.length = (d :: r).drop owed.length ++ c :: t :=
      List.drop_append_of_le_length hlen
    rw [List.cons_append] at he' ho' hdrop ⊢
    rw [closeAt?_next he' ho', hdrop, ih (fun x hx => hsolid x (by simp [hx])) hk]
    rfl
  | case5 owed outer d r he ho b hb ih =>
    obtain ⟨k, hk, rfl⟩ := Option.map_eq_some_iff.1 h
    have he' := (escaped?_join ht hc (d :: r) t).trans he
    have ho' := (isPrefixOf_append_blank (hsolid owed (by simp)) hc (d :: r) t).trans_ne ho
    have hb' := (opener?_join ht hc (d :: r) t).trans hb
    have hdrop : (d :: r ++ c :: t).drop b.opener.length =
        (d :: r).drop b.opener.length ++ c :: t :=
      List.drop_append_of_le_length (length_opener_le hb)
    have hclose := ht.closer_solid b (opener?_eq_some hb).1
    rw [List.cons_append] at he' ho' hb' hdrop ⊢
    rw [closeAt?_opener he' ho' hb', hdrop, ih (List.forall_mem_cons.2 ⟨hclose, hsolid⟩) hk]
    rfl
  | case6 owed outer d r he ho hb ih =>
    obtain ⟨k, hk, rfl⟩ := Option.map_eq_some_iff.1 h
    have he' := (escaped?_join ht hc (d :: r) t).trans he
    have ho' := (isPrefixOf_append_blank (hsolid owed (by simp)) hc (d :: r) t).trans_ne ho
    have hb' := (opener?_join ht hc (d :: r) t).trans hb
    rw [List.cons_append] at he' ho' hb' ⊢
    rw [closeAt?_char he' ho' hb', ih hsolid hk]
    rfl

theorem closer?_join {n : Nat} (hb : opener? bs s = some b)
    (hn : closer? bs b (s.drop b.opener.length) = some n) (t : Text) :
    closer? bs b ((s ++ c :: t).drop b.opener.length) = some n := by
  rw [List.drop_append_of_le_length (length_opener_le hb)]
  apply closeAt?_join ht hc _ hn
  simpa using ht.closer_solid b (opener?_eq_some hb).1

/-! ## 2. Runs -/

/-- A run that ends before an opener ends there in the joined text too. -/
theorem run_join_of_opener? (hb : opener? bs (s.drop (run bs s).raw.length) = some b) (t : Text) :
    run bs (s ++ c :: t) = run bs s := by
  fun_induction run bs s with
  | case1 => simp at hb
  | case2 d r b' he rest ih =>
    have he' := (escaped?_join ht hc (d :: r) t).trans he
    rw [drop_cons_append] at hb
    rw [List.cons_append] at he' ⊢
    rw [run_escaped he', List.drop_append_of_le_length (length_opener_le_of_escaped? he), ih hb]
  | case3 d r he b' ho =>
    have he' := (escaped?_join ht hc (d :: r) t).trans he
    have ho' := (opener?_join ht hc (d :: r) t).trans ho
    exact run_opener he' ho'
  | case4 d r he ho rest ih =>
    have he' := (escaped?_join ht hc (d :: r) t).trans he
    have ho' := (opener?_join ht hc (d :: r) t).trans ho
    rw [List.cons_append] at he' ho' ⊢
    rw [run_char he' ho', ih hb]

/-- A run that lasts to the end of the first text goes on behind the blank. -/
theorem run_join_of_end (hend : s.drop (run bs s).raw.length = []) (t : Text) :
    run bs (s ++ c :: t) =
      ⟨(run bs s).text ++ c :: (run bs t).text, (run bs s).raw ++ c :: (run bs t).raw⟩ := by
  fun_induction run bs s with
  | case1 => exact run_char (escaped?_of_blank bs hc t) (ht.opener?_of_blank hc t)
  | case2 d r b' he rest ih =>
    have he' := (escaped?_join ht hc (d :: r) t).trans he
    rw [drop_cons_append] at hend
    rw [List.cons_append] at he' ⊢
    rw [run_escaped he', List.drop_append_of_le_length (length_opener_le_of_escaped? he), ih hend]
    simp only [rest, List.cons_append, List.append_assoc]
  | case3 => cases hend
  | case4 d r he ho rest ih =>
    have he' := (escaped?_join ht hc (d :: r) t).trans he
    have ho' := (opener?_join ht hc (d :: r) t).trans ho
    rw [List.cons_append] at he' ho' ⊢
    rw [run_char he' ho', ih hend]
    rfl

/-! ## 3. Pieces -/

/-- A text that is one literal run is joined with the run behind the line feed. -/
theorem cut_join_of_end (ho : opener? bs s = none) (hend : s.drop (run bs s).raw.length = [])
    (line : Nat) (t : Text) :
    cut bs line (s ++ c :: t) =
      ⟨fuseOnto Piece.fuse? (.literal ((run bs s).text ++ [c]) ((run bs s).raw ++ [c]))
          (cut bs (line + Text.newlines (s ++ [c])) t).pieces,
        (cut bs (line + Text.newlines (s ++ [c])) t).fault⟩ := by
  have hraw : (run bs s).raw = s := by
    have happend := raw_run_append bs s
    rwa [hend, List.append_nil] at happend
  obtain ⟨hpieces, hfault⟩ := fuseOnto_cut ht ((run bs s).text ++ [c]) (s ++ [c])
    (line + Text.newlines (s ++ [c])) t
  have hdrop : (s ++ c :: t).drop (s ++ c :: (run bs t).raw).length =
      t.drop (run bs t).raw.length := by
    rw [List.append_cons s c t, List.append_cons s c (run bs t).raw, List.length_append,
      List.drop_length_add_append]
  have hlines : line + Text.newlines (s ++ c :: (run bs t).raw) =
      line + Text.newlines (s ++ [c]) + Text.newlines (run bs t).raw := by
    rw [List.append_cons, Text.newlines_append, Nat.add_assoc]
  -- `s` is one run, which goes on through the blank into `t`
  rw [cut_run (by simp) ((opener?_join ht hc s t).trans ho), run_join_of_end ht hc hend]
  simp only [hraw, hdrop, hlines, hpieces, hfault, List.append_assoc, List.singleton_append]

/-- A tag in front stays as it is when a text is joined with another one. -/
theorem cut_join_of_tag {n size : Nat} (hb : opener? bs s = some b)
    (hn : closer? bs b (s.drop b.opener.length) = some n)
    (hsize : b.opener.length + n + b.closer.length = size) (line : Nat) (t : Text) :
    cut bs line (s ++ c :: t) =
      ⟨.tag b ((s.drop b.opener.length).take n) (s.take size) line ::
          (cut bs (line + Text.newlines (s.take size)) (s.drop size ++ c :: t)).pieces,
        (cut bs (line + Text.newlines (s.take size)) (s.drop size ++ c :: t)).fault⟩ := by
  have hlen : size ≤ s.length := hsize ▸ ht.length_tag_le hb hn
  have hbody : n ≤ (s.drop b.opener.length).length := by
    rw [List.length_drop]
    omega
  rw [cut_tag ((opener?_join ht hc s t).trans hb) (closer?_join ht hc hb hn t) hsize,
    List.drop_append_of_le_length (length_opener_le hb), List.take_append_of_le_length hbody,
    List.take_append_of_le_length hlen, List.drop_append_of_le_length hlen]

/-- A literal run in front of a tag stays as it is when a text is joined with another one. -/
theorem cut_join_of_run (ho : opener? bs s = none)
    (hb : opener? bs (s.drop (run bs s).raw.length) = some b) (line : Nat) (t : Text) :
    cut bs line (s ++ c :: t) =
      ⟨.literal (run bs s).text (run bs s).raw ::
          (cut bs (line + Text.newlines (run bs s).raw)
            (s.drop (run bs s).raw.length ++ c :: t)).pieces,
        (cut bs (line + Text.newlines (run bs s).raw)
          (s.drop (run bs s).raw.length ++ c :: t)).fault⟩ := by
  have hlen : (run bs s).raw.length ≤ s.length := (prefix_raw_run bs s).length_le
  rw [cut_run (by simp) ((opener?_join ht hc s t).trans ho), run_join_of_opener? ht hc hb,
    List.drop_append_of_le_length hlen]

/-- When all tags of the first text are closed, the second text is cut as if it stood alone. -/
theorem cut_join (h : (cut bs line s).fault = none) (t : Text) :
    cut bs line (s ++ c :: t) =
      ⟨fused Piece.fuse? ((cut bs line s).pieces ++
          .literal [c] [c] :: (cut bs (line + Text.newlines (s ++ [c])) t).pieces),
        (cut bs (line + Text.newlines (s ++ [c])) t).fault⟩ := by
  fun_induction cut bs line s with
  | case1 line =>
    rw [cut_join_of_end ht hc (opener?_nil bs) List.drop_nil]
    simp only [List.nil_append, fused_cons, fused_cut, run]
  | case2 => cases h
  | case3 line d r b hb body n hn size raw rest ih =>
    have hlines : line + Text.newlines raw + Text.newlines ((d :: r).drop size ++ [c]) =
        line + Text.newlines (d :: r ++ [c]) := by
      rw [Nat.add_assoc, newlines_append_split (List.take_append_drop size (d :: r))]
    have hrest := ih h
    rw [hlines] at hrest
    rw [cut_join_of_tag ht hc hb hn rfl, List.cons_append, fused_cons, Piece.fuseOnto_tag]
    exact congrArg (fun ps : Pieces => Pieces.mk (_ :: ps.pieces) ps.fault) hrest
  | case4 line d r ho here rest ih =>
    rcases drop_run bs (d :: r) with hend | ⟨b, hb⟩
    · have hnil : rest = ⟨[], none⟩ := by simp only [rest, here, hend, cut]
      rw [cut_join_of_end ht hc ho hend, hnil]
      simp only [List.cons_append, List.nil_append, fused_cons, fused_cut,
        Piece.fuseOnto_literal_literal, here]
    · have hlines : line + Text.newlines here.raw +
          Text.newlines ((d :: r).drop here.raw.length ++ [c]) =
            line + Text.newlines (d :: r ++ [c]) := by
        rw [Nat.add_assoc, newlines_append_split (raw_run_append bs (d :: r))]
      -- an opener follows the run, so nothing fuses with it
      have hhead : ∀ p ∈ (cut bs (line + Text.newlines here.raw)
          ((d :: r).drop here.raw.length ++ c :: t)).pieces.head?,
            Piece.fuse? (.literal here.text here.raw) p = none := by
        simp only [Piece.fuse?_eq_none_iff]
        exact apart_of_opener? ((opener?_join ht hc _ t).trans hb) _ _
      have hfuse := fuseOnto_eq_cons hhead
      rw [cut_join_of_run ht hc ho hb]
      rw [ih h, hlines] at hfuse ⊢
      exact congrArg (Pieces.mk · _) hfuse.symm

/-- What was cut from the first text up to a closed tag is cut from the joined text. -/
theorem exists_cut_join {content raw : Text} {l : Nat} {pre post : List Piece}
    (h : (cut bs line s).pieces = pre ++ .tag b content raw l :: post) (t : Text) :
    ∃ post', (cut bs line (s ++ c :: t)).pieces = pre ++ .tag b content raw l :: post' := by
  fun_induction cut bs line s generalizing pre with
  | case1 => simp at h
  | case2 => simp at h
  | case3 line d r b' hb body n hn size raw' rest =>
    rename_i ih
    rw [cut_join_of_tag ht hc hb hn rfl]
    cases pre with
    | nil =>
      obtain ⟨hp, -⟩ := List.cons.inj h
      exact ⟨_, congrArg (· :: _) hp⟩
    | cons p pre =>
      obtain ⟨rfl, hrest⟩ := List.cons.inj h
      obtain ⟨post', hpost⟩ := ih hrest
      exact ⟨post', congrArg (_ :: ·) hpost⟩
  | case4 line d r ho here rest =>
    rename_i ih
    cases pre with
    | nil => cases (List.cons.inj h).1
    | cons p pre =>
      obtain ⟨rfl, hrest⟩ := List.cons.inj h
      rcases drop_run bs (d :: r) with hend | ⟨b, hb⟩
      -- behind a run that lasts to the end there is no tag
      · simp only [rest, here, hend, cut] at hrest
        simp at hrest
      · obtain ⟨post', hpost⟩ := ih hrest
        rw [cut_join_of_run ht hc ho hb]
        exact ⟨post', congrArg (_ :: ·) hpost⟩

end Join

/-! ## 4. Lines -/

/-- A text that starts further down is cut alike, with all lines further down. -/
theorem cut_add (bs : Brackets) (line k : Nat) (s : Text) :
    cut bs (line + k) s =
      ⟨(cut bs line s).pieces.map (Piece.moved k),
        (cut bs line s).fault.map (Fault.atLine (k + 1))⟩ := by
  fun_induction cut bs line s with
  | case1 => simp [cut]
  | case2 line d r b hb body hn =>
    rw [cut_open hb hn]
    simp only [Fault.atLine, List.map_nil, Option.map_some]
    rw [Nat.add_right_comm, Nat.add_sub_cancel, Nat.add_comm]
  | case3 line d r b hb body n hn size raw rest ih =>
    rw [cut_tag hb hn rfl, Nat.add_right_comm line k, ih]
    rfl
  | case4 line d r ho here rest ih =>
    rw [cut_run (List.cons_ne_nil d r) ho, Nat.add_right_comm line k, ih]
    rfl

/-- The pieces of a joined text, when all tags of the first text are closed. -/
theorem ofText_join (ht : Tidy bs) (hc : Text.isBlank c = true)
    (h : (Pieces.ofText bs s).fault = none) (t : Text) :
    Pieces.ofText bs (s ++ c :: t) =
      ⟨fused Piece.fuse? ((Pieces.ofText bs s).pieces ++ .literal [c] [c] ::
          (Pieces.ofText bs t).pieces.map (Piece.moved (Text.newlines (s ++ [c])))),
        (Pieces.ofText bs t).fault.map (Fault.atLine (Text.newlines (s ++ [c]) + 1))⟩ := by
  rw [Pieces.ofText, cut_join ht hc h, cut_add]
  rfl

end Brackets

end SecretWeave
