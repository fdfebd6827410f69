import Mathlib.Data.List.TakeWhile
import SecretWeave.Proofs.Disk
import SecretWeave.Proofs.Way
import SecretWeave.Source

/-!
# The file that a specification names

A specification of a dotenv source is a scheme and the path of a file. It is read as a URL: what
stands before the first slash is a host, which is kept, and the dots behind it are followed within
the path, never above where it starts. So the path that is kept leads where the written one does
as long as that one, once past its first segment, does not lead back above it; a relative path
like `a/../b` names another file (`ofSpec_dotenv`).
-/

namespace SecretWeave

/-! ## 1. Paths as they are written -/

/-- A character of a plainly written path: an ASCII letter or digit, a dot, an underscore or a
dash. -/
def isFileChar (c : Char) : Bool :=
  c.isAlphanum || c == '.' || c == '_' || c == '-'

def IsPlain (s : Text) : Prop :=
  ∀ c ∈ s, isFileChar c = true

@[simp] theorem isPlain_nil : IsPlain [] :=
  fun _ hc => absurd hc List.not_mem_nil

structure FilePath where
  absolute : Bool
  segments : List Text
  start : absolute = false → segments ≠ []
  plain : ∀ s ∈ segments, s ≠ [] ∧ IsPlain s

def FilePath.text (p : FilePath) : Text :=
  (if p.absolute then ['/'] else []) ++ ['/'].intercalate p.segments

variable {c : Char} {s h rest : Text} {ss done : List Text}

theorem isFileChar_cases (hc : isFileChar c = true) :
    c.isAlphanum = true ∨ c = '.' ∨ c = '_' ∨ c = '-' := by
  simpa [isFileChar, or_assoc] using hc

theorem toNat_of_isFileChar (hc : isFileChar c = true) : 0x2D ≤ c.toNat ∧ c.toNat ≤ 0x7A := by
  rcases isFileChar_cases hc with halnum | rfl | rfl | rfl
  · have := Text.toNat_of_isAlphanum halnum
    omega
  · decide
  · decide
  · decide

theorem ne_of_isFileChar (hc : isFileChar c = true) {d : Char} (hd : isFileChar d = false) :
    c ≠ d := by
  rintro rfl
  rw [hc] at hd
  cases hd

theorem not_mem_of_isPlain (hs : IsPlain s) {d : Char} (hd : isFileChar d = false) : d ∉ s :=
  fun hmem => ne_of_isFileChar (hs d hmem) hd rfl

namespace Url

/-! ## 2. Dots in the path of a URL -/

theorem isDotDot_eq (hs : IsPlain s) : isDotDot s = decide (s = "..".toList) := by
  have hpercent := not_mem_of_isPlain hs (d := '%') (by decide)
  rw [Bool.eq_iff_iff, decide_eq_true_iff]
  constructor
  · intro h
    simp only [isDotDot, List.any_cons, List.any_nil, Bool.or_false, Bool.or_eq_true,
      beq_iff_eq] at h
    rcases h with rfl | h
    · rfl
    · -- every other way to write two dots has a percent sign
      rcases h with rfl | rfl | rfl | rfl | rfl | rfl | rfl | rfl <;> simp at hpercent
  · rintro rfl
    rfl

theorem isDot_eq (hs : IsPlain s) : isDot s = decide (s = ".".toList) := by
  have hpercent := not_mem_of_isPlain hs (d := '%') (by decide)
  rw [Bool.eq_iff_iff, decide_eq_true_iff]
  constructor
  · intro h
    simp only [isDot, List.any_cons, List.any_nil, Bool.or_false, Bool.or_eq_true, beq_iff_eq] at h
    rcases h with rfl | rfl | rfl
    · rfl
    · simp at hpercent
    · simp at hpercent
  · rintro rfl
    rfl

def Names (done : List Text) : Prop :=
  ∀ d ∈ done, ¬ (d = [] ∨ d = ".".toList) ∧ d ≠ "..".toList ∧ IsPlain d

theorem Names.cons (hdone : Names done) (hs : ¬ (s = [] ∨ s = ".".toList))
    (hup : s ≠ "..".toList) (hchars : IsPlain s) : Names (s :: done) := by
  intro d hd
  rcases List.mem_cons.1 hd with rfl | hd
  · exact ⟨hs, hup, hchars⟩
  · exact hdone d hd

theorem Names.tail (hdone : Names done) : Names done.tail :=
  fun d hd => hdone d (List.mem_of_mem_tail hd)

/-- Two dots take the innermost name away, if only names were passed. -/
theorem Names.climb_eq (hdone : Names done) : climb done = done.tail := by
  cases done with
  | nil => rfl
  | cons d ds =>
    have hdrive : isDrive d = false := by
      unfold isDrive
      split
      · rename_i a b
        have hb := (hdone [a, b] List.mem_cons_self).2.2 b (by simp)
        simp [ne_of_isFileChar hb (d := ':') (by decide),
          ne_of_isFileChar hb (d := '|') (by decide)]
      · rfl
    rw [climb, hdrive]
    rfl

theorem follow_names (hdone : Names done) (w : Way) : w.follow done.reverse = w.down done := by
  induction done with
  | nil => rfl
  | cons d ds ih =>
    obtain ⟨hstays, hup, -⟩ := hdone d List.mem_cons_self
    rw [List.reverse_cons, Way.follow_append, ih fun x hx => hdone x (List.mem_cons_of_mem _ hx),
      Way.follow_cons, Way.step_name hstays hup]
    rfl

/-- Once its dots are followed, a path leads from anywhere to where it led from the root. -/
theorem follow_normalizeFrom (hdone : Names done)
    (hss : ∀ s ∈ ss, s ≠ [] ∧ IsPlain s) (w : Way) :
    w.follow (normalizeFrom done ss) = w.down (Way.inside done ss) := by
  fun_induction normalizeFrom done ss with
  | case1 done => exact follow_names hdone w
  | case2 done s hup =>
    rw [isDotDot_eq (hss s List.mem_cons_self).2, decide_eq_true_iff] at hup
    subst hup
    -- the segment without characters that a slash at the end leaves behind leads nowhere
    rw [List.reverse_cons, Way.follow_append, hdone.climb_eq, follow_names hdone.tail,
      Way.inside_cons_up]
    exact Way.step_of_stays (.inl rfl) _
  | case3 done s hup hdot =>
    rw [isDot_eq (hss s List.mem_cons_self).2, decide_eq_true_iff] at hdot
    rw [List.reverse_cons, Way.follow_append, follow_names hdone, Way.inside_cons_stays (.inr hdot)]
    exact Way.step_of_stays (.inl rfl) _
  | case4 done s hup hdot =>
    obtain ⟨hne, hchars⟩ := hss s List.mem_cons_self
    rw [isDotDot_eq hchars, decide_eq_true_iff] at hup
    rw [isDot_eq hchars, decide_eq_true_iff] at hdot
    have hstays : ¬ (s = [] ∨ s = ".".toList) := fun h => h.elim hne hdot
    rw [Way.inside_cons_name hstays hup]
    exact follow_names (hdone.cons hstays hup hchars) w
  | case5 done s ss hmore hup ih =>
    rw [isDotDot_eq (hss s List.mem_cons_self).2, decide_eq_true_iff] at hup
    subst hup
    rw [hdone.climb_eq] at ih ⊢
    rw [ih hdone.tail fun x hx => hss x (List.mem_cons_of_mem _ hx), Way.inside_cons_up]
  | case6 done s ss hmore hup hdot ih =>
    rw [isDot_eq (hss s List.mem_cons_self).2, decide_eq_true_iff] at hdot
    rw [ih hdone fun x hx => hss x (List.mem_cons_of_mem _ hx), Way.inside_cons_stays (.inr hdot)]
  | case7 done s ss hmore hup hdot ih =>
    obtain ⟨hne, hchars⟩ := hss s List.mem_cons_self
    rw [isDotDot_eq hchars, decide_eq_true_iff] at hup
    rw [isDot_eq hchars, decide_eq_true_iff] at hdot
    have hstays : ¬ (s = [] ∨ s = ".".toList) := fun h => h.elim hne hdot
    rw [ih (hdone.cons hstays hup hchars) fun x hx => hss x (List.mem_cons_of_mem _ hx),
      Way.inside_cons_name hstays hup]

theorem follow_normalize (hss : ∀ s ∈ ss, s ≠ [] ∧ IsPlain s) (w : Way) :
    w.follow (normalize ss) = w.down (Way.inside [] ss) :=
  follow_normalizeFrom (fun _ hd => absurd hd List.not_mem_nil) hss w

theorem normalizeFrom_ne_nil (hss : ss ≠ []) : normalizeFrom done ss ≠ [] := by
  fun_induction normalizeFrom done ss with
  | case1 => exact absurd rfl hss
  | case2 => simp
  | case3 => simp
  | case4 => simp
  | case5 done s ss hmore hup ih => exact ih fun h => hmore h
  | case6 done s ss hmore hup hdot ih => exact ih fun h => hmore h
  | case7 done s ss hmore hup hdot ih => exact ih fun h => hmore h

/-- What holds of all segments, and of the empty one, holds of those that are left. -/
theorem forall_mem_normalizeFrom {P : Text → Prop} (hnil : P []) (hdone : ∀ s ∈ done, P s)
    (hss : ∀ s ∈ ss, P s) : ∀ s ∈ normalizeFrom done ss, P s := by
  have hrev : ∀ done : List Text, (∀ s ∈ done, P s) → ∀ s ∈ done.reverse, P s :=
    fun done h s hs => h s (List.mem_reverse.1 hs)
  have hclimb : ∀ done : List Text, (∀ s ∈ done, P s) → ∀ s ∈ climb done, P s := by
    intro done hdone s hs
    cases done with
    | nil => cases hs
    | cons d ds =>
      rw [climb] at hs
      split at hs
      · exact hdone s hs
      · exact hdone s (List.mem_cons_of_mem _ hs)
  -- `done` holds what was passed: a step adds a segment, takes one away or leaves all
  fun_induction normalizeFrom done ss with
  | case1 done => exact hrev done hdone
  | case2 done s hup => exact hrev _ (List.forall_mem_cons.2 ⟨hnil, hclimb done hdone⟩)
  | case3 done s hup hdot => exact hrev _ (List.forall_mem_cons.2 ⟨hnil, hdone⟩)
  | case4 done s hup hdot =>
    exact hrev _ (List.forall_mem_cons.2 ⟨hss s List.mem_cons_self, hdone⟩)
  | case5 done s ss hmore hup ih =>
    exact ih (hclimb done hdone) fun x hx => hss x (List.mem_cons_of_mem _ hx)
  | case6 done s ss hmore hup hdot ih =>
    exact ih hdone fun x hx => hss x (List.mem_cons_of_mem _ hx)
  | case7 done s ss hmore hup hdot ih =>
    apply ih
    · exact List.forall_mem_cons.2 ⟨hss s List.mem_cons_self, hdone⟩
    · exact fun x hx => hss x (List.mem_cons_of_mem _ hx)

/-! ## 3. Slashes -/

/-- Segments that are written behind slashes are found again. -/
theorem split_append_pathText (hs : '/' ∉ s) (hss : ∀ x ∈ ss, '/' ∉ x) :
    Text.split '/' (s ++ pathText ss) = s :: ss :=
  Text.split_append_flatMap hs hss

theorem intercalate_eq_append_pathText (s : Text) (ss : List Text) :
    ['/'].intercalate (s :: ss) = s ++ pathText ss := by
  induction ss generalizing s with
  | nil => simp [pathText]
  | cons x ss ih =>
    rw [List.intercalate_cons_cons, ih]
    simp [pathText]

/-! ## 4. Reading -/

/-- A text without blanks and controls is read as it is. -/
theorem strip_eq_self (hs : ∀ c ∈ s, 0x20 < c.toNat) : strip s = s := by
  have hmargin : ∀ c ∈ s, isMargin c = false := by
    intro c hc
    exact decide_eq_false (Nat.not_le.2 (hs c hc))
  have hlayout : ∀ c ∈ s, isLayout c = false := by
    intro c hc
    have hne : ∀ d : Char, d.toNat ≤ 0x20 → c ≠ d := by
      rintro d hd rfl
      exact absurd (hs c hc) (Nat.not_lt.2 hd)
    simp [isLayout, hne '\t' (by decide), hne '\n' (by decide), hne '\r' (by decide)]
  have hdrop : ∀ t : Text, (∀ c ∈ t, isMargin c = false) → t.dropWhile isMargin = t := by
    intro t ht
    cases t with
    | nil => rfl
    | cons c r => rw [List.dropWhile_cons_of_neg (by simp [ht c List.mem_cons_self])]
  rw [strip, hdrop s hmargin, hdrop s.reverse fun c hc => hmargin c (List.mem_reverse.1 hc),
    List.reverse_reverse, List.filter_eq_self]
  intro c hc
  rw [hlayout c hc]
  rfl

theorem lastAt?_eq_none (hs : '@' ∉ s) : lastAt? s = none := by
  induction s with
  | nil => rfl
  | cons c r ih =>
    rw [lastAt?, ih (List.not_mem_of_not_mem_cons hs)]
    exact if_neg (List.ne_of_not_mem_cons hs).symm

theorem dropUser_eq_self (m : Manner) (hs : '@' ∉ s) : dropUser m s = .ok (false, s) := by
  have hauthority : '@' ∉ s.takeWhile fun c => !m.endsAuthority c := fun h =>
    hs ((List.takeWhile_prefix _).subset h)
  rw [dropUser, lastAt?_eq_none hauthority]

theorem beforeQuery_eq_self (hquery : '?' ∉ s) (hfragment : '#' ∉ s) : beforeQuery s = s := by
  rw [beforeQuery, List.takeWhile_eq_self_iff]
  intro c hc
  have hne : c ≠ '?' ∧ c ≠ '#' := ⟨fun h => hquery (h ▸ hc), fun h => hfragment (h ▸ hc)⟩
  simp [hne]

/-- A plain host lasts to the first slash. -/
theorem splitHost_append (hh : IsPlain h) (hrest : ∀ c ∈ rest.head?, c = '/') :
    splitHost .plain false (h ++ rest) = (h, rest) := by
  induction h with
  | nil =>
    cases rest with
    | nil => rfl
    | cons c r =>
      obtain rfl := hrest c rfl
      rfl
  | cons c h ih =>
    -- none of the marks that could end a host is a file character
    have hc := hh c List.mem_cons_self
    have hne : ∀ d, isFileChar d = false → c ≠ d := fun d hd => ne_of_isFileChar hc hd
    have hends : Manner.endsAuthority .plain c = false := by
      simp [Manner.endsAuthority, Manner.isSlash, hne '/' (by decide), hne '?' (by decide),
        hne '#' (by decide)]
    rw [List.cons_append, splitHost, hends]
    simp [hne ':' (by decide), hne '[' (by decide), hne ']' (by decide),
      ih fun d hd => hh d (List.mem_cons_of_mem _ hd)]

theorem contains_eq_false {l : List Char} (hl : l.all (fun d => !isFileChar d) = true)
    (hc : isFileChar c = true) : l.contains c = false := by
  rw [← Bool.not_eq_true, List.contains_iff_mem]
  intro hmem
  have hd := List.all_eq_true.1 hl c hmem
  rw [hc] at hd
  cases hd

theorem isForeign_of_isFileChar (hc : isFileChar c = true) : Percent.isForeign c = false := by
  obtain ⟨hlow, hhigh⟩ := toNat_of_isFileChar hc
  simp only [Percent.isForeign, Bool.or_eq_false_iff, decide_eq_false_iff_not]
  omega

theorem readName_of_isPlain (hh : IsPlain h) : readName h = .ok h :=
  readName_eq_self fun c hc =>
    ⟨contains_eq_false (by decide) (hh c hc), isForeign_of_isFileChar (hh c hc)⟩

theorem breaksPath_of_isFileChar (hc : isFileChar c = true) : Percent.breaksPath c = false := by
  rw [Percent.breaksPath, isForeign_of_isFileChar hc, contains_eq_false (by decide) hc]
  rfl

/-- A host and segments have no characters but plain ones and slashes. -/
theorem forall_mem_append_pathText {P : Char → Prop} (hh : IsPlain h) (hss : ∀ s ∈ ss, IsPlain s)
    (hslash : P '/') (hplain : ∀ c, isFileChar c = true → P c) : ∀ c ∈ h ++ pathText ss, P c := by
  intro c hc
  rcases List.mem_append.1 hc with hc | hc
  · exact hplain c (hh c hc)
  · obtain ⟨s, hs, hcs⟩ := List.mem_flatMap.1 hc
    rcases List.mem_cons.1 hcs with rfl | hcs
    · exact hslash
    · exact hplain c (hss s hs c hcs)

theorem not_mem_append_pathText (hh : IsPlain h) (hss : ∀ s ∈ ss, IsPlain s)
    (hc : isFileChar c = false) (hslash : '/' ≠ c) : c ∉ h ++ pathText ss := by
  intro hmem
  have hne := forall_mem_append_pathText hh hss hslash fun d hd => ne_of_isFileChar hd hc
  exact hne c hmem rfl

/-- The host of a plainly written path is its first segment. -/
theorem readHost_append (hh : IsPlain h) (ss : List Text) :
    readHost .plain (h ++ pathText ss) = .ok (h, pathText ss) := by
  have hhead : ∀ c ∈ (pathText ss).head?, c = '/' := by
    cases ss with
    | nil => simp [pathText]
    | cons s ss => simp [pathText]
  rw [readHost, splitHost_append hh hhead]
  simp only [if_true, readName_of_isPlain hh]
  cases ss with
  | nil => rfl
  | cons s ss => rfl

/-- The path behind the host is read with its dots resolved. -/
theorem readPath_pathText (hss : ∀ s ∈ ss, IsPlain s) :
    readPath (pathText ss) = pathText (normalize ss) := by
  cases ss with
  | nil => rfl
  | cons s ss =>
    obtain ⟨hs, hss⟩ := List.forall_mem_cons.1 hss
    have hencode : Percent.encode Percent.breaksPath (s ++ pathText ss) = s ++ pathText ss := by
      apply Percent.encode_eq_self
      exact forall_mem_append_pathText hs hss (by decide) fun c hc => breaksPath_of_isFileChar hc
    show pathText (normalize (Text.split '/' (Percent.encode _ (s ++ pathText ss)))) = _
    rw [hencode, split_append_pathText]
    · exact not_mem_of_isPlain hs (by decide)
    · intro x hx
      exact not_mem_of_isPlain (hss x hx) (by decide)

/-- A host and segments behind two slashes are read back, and the dots among the segments are
followed. -/
theorem ofText_append (hh : IsPlain h) (hss : ∀ s ∈ ss, IsPlain s) :
    ofText ("dotenv://".toList ++ (h ++ pathText ss)) =
      .ok ⟨"dotenv".toList, if h.isEmpty then none else some h, pathText (normalize ss)⟩ := by
  have hstrip : strip ("dotenv://".toList ++ (h ++ pathText ss)) =
      "dotenv://".toList ++ (h ++ pathText ss) := by
    have hstart : ∀ c ∈ "dotenv://".toList, 0x20 < c.toNat := by
      have hall : "dotenv://".toList.all (fun c => 0x20 < c.toNat) = true := by decide
      exact fun c hc => of_decide_eq_true (List.all_eq_true.1 hall c hc)
    have hrest : ∀ c ∈ h ++ pathText ss, 0x20 < c.toNat :=
      forall_mem_append_pathText hh hss (by decide) fun c hc => by
        have := (toNat_of_isFileChar hc).1
        omega
    exact strip_eq_self (List.forall_mem_append.2 ⟨hstart, hrest⟩)
  have hscheme : scheme? ("dotenv://".toList ++ (h ++ pathText ss)) =
      some ("dotenv".toList, '/' :: '/' :: (h ++ pathText ss)) := rfl
  have hauthority : readAuthority .plain (h ++ pathText ss) = .ok (h, pathText ss) := by
    have hat := not_mem_append_pathText hh hss (c := '@') (by decide) (by decide)
    simp only [readAuthority, dropUser_eq_self _ hat, readHost_append hh, Bool.and_false,
      Bool.false_eq_true, if_false]
  have hquery : beforeQuery (pathText ss) = pathText ss := by
    have hmem := fun c => not_mem_append_pathText (h := []) (c := c) isPlain_nil hss
    apply beforeQuery_eq_self
    · exact hmem '?' (by decide) (by decide)
    · exact hmem '#' (by decide) (by decide)
  rw [ofText, hstrip, hscheme]
  show readPlain "dotenv".toList ('/' :: '/' :: (h ++ pathText ss)) = _
  simp only [readPlain, hauthority, hquery, readPath_pathText hss]

/-! ## 5. The file -/

/-- A dotenv file is named by the host and the resolved path behind it, one after the other. -/
theorem configure_dotenv (hne : h ≠ [] ∨ ss ≠ []) :
    Settings.configure .dotenv
        ⟨"dotenv".toList, if h.isEmpty then none else some h, pathText (normalize ss)⟩ =
      .ok (.dotenv (h ++ pathText (normalize ss))) := by
  have hhost : (if h.isEmpty then none else some h).getD [] = h := by
    cases h <;> rfl
  -- some segment is left when the dots are resolved, perhaps an empty one
  have hfile : (h ++ pathText (normalize ss)).isEmpty = false := by
    rw [List.isEmpty_eq_false_iff]
    intro hempty
    obtain ⟨rfl, hpath⟩ := List.append_eq_nil_iff.1 hempty
    have hleft : normalize ss ≠ [] := normalizeFrom_ne_nil (hne.resolve_left fun h => h rfl)
    obtain ⟨x, xs, hx⟩ := List.exists_cons_of_ne_nil hleft
    rw [hx] at hpath
    cases hpath
  have hscheme : "dotenv".toList = SourceKind.dotenv.name := rfl
  simp only [Settings.configure, ← hscheme, if_true, Settings.ofUrl, hhost, hfile,
    Bool.false_eq_true, if_false]

end Url

namespace Source

open Url

/-- The source of a specification whose URL is a host and segments behind two slashes. -/
theorem ofSpec_of_urlText {path : Text} (hh : IsPlain h) (hss : ∀ s ∈ ss, IsPlain s)
    (hne : h ≠ [] ∨ ss ≠ [])
    (hpath : Settings.urlText "dotenv".toList path = "dotenv://".toList ++ (h ++ pathText ss)) :
    ofSpec ("dotenv:".toList ++ path) = .ok (.dotenv (h ++ pathText (Url.normalize ss)) none) := by
  have hsplit : Settings.splitSpec ("dotenv:".toList ++ path) = ("dotenv".toList, path) := rfl
  have hkind : SourceKind.ofName? "dotenv".toList = some .dotenv := by decide
  rw [ofSpec, Settings.ofSpec, hsplit]
  simp only [hkind, hpath, ofText_append hh hss, configure_dotenv hne]
  rfl

/-- Both ways to write a specification name the same source. -/
theorem ofSpec_append (hh : IsPlain h) (hss : ∀ s ∈ ss, IsPlain s) (hne : h ≠ [] ∨ ss ≠ [])
    (hslash : ¬ ['/', '/'] <+: h ++ pathText ss) :
    ofSpec ("dotenv:".toList ++ (h ++ pathText ss)) =
        .ok (.dotenv (h ++ pathText (Url.normalize ss)) none) ∧
      ofSpec ("dotenv://".toList ++ (h ++ pathText ss)) =
        .ok (.dotenv (h ++ pathText (Url.normalize ss)) none) := by
  have htext : Settings.urlText "dotenv".toList ('/' :: '/' :: (h ++ pathText ss)) =
    "dotenv://".toList ++ (h ++ pathText ss) := rfl
  constructor
  · exact ofSpec_of_urlText hh hss hne ((Settings.urlText_eq_of_slashes hslash).trans htext)
  · exact ofSpec_of_urlText hh hss hne htext

end Source

namespace FilePath

open Url

variable {p : FilePath}

theorem text_relative (hp : p.absolute = false) (hs : p.segments = s :: ss) :
    p.text = s ++ pathText ss := by
  rw [text, hp, hs, intercalate_eq_append_pathText]
  rfl

theorem text_absolute (hp : p.absolute = true) (hs : p.segments = s :: ss) :
    p.text = pathText (s :: ss) := by
  rw [text, hp, hs, intercalate_eq_append_pathText]
  rfl

theorem not_mem_of_plain (hss : ∀ s ∈ ss, s ≠ [] ∧ IsPlain s) :
    ∀ s ∈ ss, '/' ∉ s := fun s hs => not_mem_of_isPlain (hss s hs).2 (by decide)

theorem not_mem_normalize (hss : ∀ s ∈ ss, s ≠ [] ∧ IsPlain s) :
    ∀ s ∈ Url.normalize ss, '/' ∉ s :=
  forall_mem_normalizeFrom (by simp) (by simp) (not_mem_of_plain hss)

/-- Where a relative path leads: its first segment, and then the others. -/
theorem ofPath_relative (hs : s ≠ [] ∧ IsPlain s) (hss : ∀ x ∈ ss, '/' ∉ x) :
    Way.ofPath (s ++ pathText ss) = (Way.step ⟨false, 0, []⟩ s).follow ss := by
  obtain ⟨hne, hchars⟩ := hs
  have hslash := not_mem_of_isPlain hchars (d := '/') (by decide)
  obtain ⟨c, r, rfl⟩ := List.exists_cons_of_ne_nil hne
  have hhead : decide ((c :: r ++ pathText ss).head? = some '/') = false := by
    rw [decide_eq_false_iff_not]
    intro h
    exact List.ne_of_not_mem_cons hslash (Option.some.inj h).symm
  rw [Way.ofPath, split_append_pathText hslash hss, hhead, Way.follow_cons]

/-- Where a path from the root leads: its segments, from the root. -/
theorem ofPath_absolute (hss : ∀ x ∈ ss, '/' ∉ x) (hne : ss ≠ []) :
    Way.ofPath (pathText ss) = Way.follow ⟨true, 0, []⟩ ss := by
  have hsplit := split_append_pathText (s := []) (by simp) hss
  obtain ⟨s, ss, rfl⟩ := List.exists_cons_of_ne_nil hne
  rw [List.nil_append] at hsplit
  rw [Way.ofPath, hsplit]
  rfl

theorem rooted_step (s : Text) : (Way.step ⟨false, 0, []⟩ s).rooted = false :=
  (Way.level_step rfl s).1

/-- A relative path is kept up to its first slash, and the dots behind it are followed from there
as if that were the root. -/
theorem ofSpec_relative (hp : p.absolute = false) (hs : p.segments = s :: ss) :
    ∃ file, Source.ofSpec ("dotenv:".toList ++ p.text) = .ok (.dotenv file none) ∧
      Source.ofSpec ("dotenv://".toList ++ p.text) = .ok (.dotenv file none) ∧
      Way.ofPath file = (Way.step ⟨false, 0, []⟩ s).down (Way.inside [] ss) := by
  obtain ⟨hfirst, hrest⟩ := List.forall_mem_cons.1 (hs ▸ p.plain)
  have hslash : ¬ ['/', '/'] <+: s ++ pathText ss := by
    rintro ⟨t, ht⟩
    obtain ⟨c, r, rfl⟩ := List.exists_cons_of_ne_nil hfirst.1
    obtain ⟨rfl, -⟩ := List.cons.inj ht
    exact absurd (hfirst.2 '/' List.mem_cons_self) (by decide)
  obtain ⟨hcolon, hslashes⟩ := Source.ofSpec_append hfirst.2 (fun x hx => (hrest x hx).2)
    (.inl hfirst.1) hslash
  rw [text_relative hp hs]
  refine ⟨_, hcolon, hslashes, ?_⟩
  rw [ofPath_relative hfirst (not_mem_normalize hrest)]
  exact follow_normalize hrest _

/-- An absolute path is kept, with its dots followed. -/
theorem ofSpec_absolute (hp : p.absolute = true) :
    ∃ file, Source.ofSpec ("dotenv:".toList ++ p.text) = .ok (.dotenv file none) ∧
      Source.ofSpec ("dotenv://".toList ++ p.text) = .ok (.dotenv file none) ∧
      Way.ofPath file = Way.ofPath p.text := by
  cases hs : p.segments with
  | nil =>
    -- the root is read as one segment without characters
    have htext : p.text = [] ++ pathText [[]] := by
      rw [text, hp, hs]
      rfl
    have hslash : ¬ ['/', '/'] <+: [] ++ pathText [[]] := by decide
    obtain ⟨hcolon, hslashes⟩ := Source.ofSpec_append isPlain_nil (by simp) (.inr (by simp)) hslash
    rw [htext]
    exact ⟨_, hcolon, hslashes, rfl⟩
  | cons s ss =>
    have hplain := hs ▸ p.plain
    have hslash : ¬ ['/', '/'] <+: [] ++ pathText (s :: ss) := by
      rintro ⟨t, ht⟩
      obtain ⟨hne, hchars⟩ := hplain s List.mem_cons_self
      obtain ⟨c, r, rfl⟩ := List.exists_cons_of_ne_nil hne
      obtain ⟨rfl, -⟩ := List.cons.inj (List.cons.inj ht).2
      exact absurd (hchars '/' List.mem_cons_self) (by decide)
    obtain ⟨hcolon, hslashes⟩ := Source.ofSpec_append (h := []) isPlain_nil
      (fun x hx => (hplain x hx).2) (.inr (List.cons_ne_nil s ss)) hslash
    rw [text_absolute hp hs]
    refine ⟨_, hcolon, hslashes, ?_⟩
    rw [List.nil_append, ofPath_absolute (not_mem_normalize hplain)
      (normalizeFrom_ne_nil (List.cons_ne_nil s ss)),
      ofPath_absolute (not_mem_of_plain hplain) (List.cons_ne_nil s ss),
      follow_normalize hplain, Way.follow_root, Way.down, List.append_nil]

/-- Both ways to write the specification of a dotenv source name the same file. It is where the
written path leads exactly if that is absolute, or does not lead back above its first segment:
what follows that segment is followed from there as if it were the root. -/
theorem ofSpec_dotenv (p : FilePath) :
    ∃ file, Source.ofSpec ("dotenv:".toList ++ p.text) = .ok (.dotenv file none) ∧
      Source.ofSpec ("dotenv://".toList ++ p.text) = .ok (.dotenv file none) ∧
      (Way.ofPath file = Way.ofPath p.text ↔
        p.absolute = true ∨ Way.StaysBelow 0 p.segments.tail) ∧
      (p.absolute = false → ∀ s ss, p.segments = s :: ss →
        Way.ofPath file = (Way.step ⟨false, 0, []⟩ s).down (Way.inside [] ss)) := by
  cases hp : p.absolute with
  | true =>
    obtain ⟨file, hcolon, hslashes, hfile⟩ := ofSpec_absolute hp
    exact ⟨file, hcolon, hslashes, by simp [hfile], by simp⟩
  | false =>
    -- the first segment is read as a host, and the others are followed from there
    obtain ⟨s, ss, hs⟩ := List.exists_cons_of_ne_nil (p.start hp)
    obtain ⟨hfirst, hrest⟩ := List.forall_mem_cons.1 (hs ▸ p.plain)
    obtain ⟨file, hcolon, hslashes, hfile⟩ := ofSpec_relative hp hs
    refine ⟨file, hcolon, hslashes, ?_, ?_⟩
    · rw [hfile, text_relative hp hs, ofPath_relative hfirst (not_mem_of_plain hrest),
        Way.down_inside_eq_iff (rooted_step s), hs]
      simp
    · intro _ s' ss' hs'
      obtain ⟨rfl, rfl⟩ := List.cons.inj (hs.symm.trans hs')
      exact hfile

/-- Two dots behind the first segment do not take it away. -/
theorem ofSpec_dotenv_back :
    ∃ p : FilePath, p.text = "a/../b".toList ∧
      Source.ofSpec ("dotenv:".toList ++ p.text) = .ok (.dotenv "a/b".toList none) ∧
      Source.ofSpec ("dotenv://".toList ++ p.text) = .ok (.dotenv "a/b".toList none) ∧
      Way.ofPath p.text = Way.ofPath "b".toList ∧
      Way.ofPath "a/b".toList ≠ Way.ofPath p.text := by
  refine ⟨⟨false, ["a".toList, "..".toList, "b".toList], by simp, ?_⟩, ?_⟩
  · simp [IsPlain, isFileChar]
  · exact ⟨by rfl, by rfl, by rfl, by rfl, by decide⟩

end FilePath

end SecretWeave
