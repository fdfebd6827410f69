import Mathlib.Data.List.Induction
import SecretWeave.Config.File
import SecretWeave.Proofs.Disk

/-!
# Making the directories on the way

On a path from the root whose names are plain, directories that are missing are made from the top down.
As long as nothing else than a directory is in the way, all of them are there in the end, and no other
place has changed (`makeDirectories_eq_ok`).
-/

namespace SecretWeave

variable {d e : Disk} {path name : Text} {names : List Text} {l m : Location}

/-! ## 1. Plain paths from the root -/

theorem Text.utf8_append (s t : Text) : utf8 (s ++ t) = utf8 s ++ utf8 t :=
  List.flatMap_append

namespace Disk

structure PlainName (name : Text) : Prop where
  ne_nil : name ≠ []
  ne_dot : name ≠ ['.']
  ne_dots : name ≠ ['.', '.']
  no_slash : '/' ∉ name
  no_nul : '\x00' ∉ name
  short : (Text.utf8 name).length ≤ maxName

theorem PlainName.step_eq (h : PlainName name) (l : Location) : step l name = l ++ [name] := by
  rw [step, if_neg (by simp [h.ne_nil, h.ne_dot]), if_neg h.ne_dots]

theorem PlainName.isIdle_eq (h : PlainName name) : isIdle name = false := by
  simp [isIdle, h.ne_nil, h.ne_dot]

theorem dropIdle_of_plain (h : ∀ n ∈ names, PlainName n) : dropIdle names = names := by
  cases hrev : names.reverse with
  | nil =>
    rw [dropIdle, hrev]
    exact (List.reverse_eq_nil_iff.1 hrev).symm
  | cons n r =>
    have hn : PlainName n := h n (List.mem_reverse.1 (hrev ▸ List.mem_cons_self))
    rw [dropIdle, hrev, List.dropWhile_cons_of_neg (by simp [hn.isIdle_eq]), ← hrev,
      List.reverse_reverse]

theorem pathWith_nil (names : List Text) : pathWith [] names = pathOf names := by
  cases names <;> rfl

theorem pathOf_concat (names : List Text) (name : Text) :
    pathOf (names ++ [name]) = names.flatMap ('/' :: ·) ++ '/' :: name := by
  have hne : pathOf (names ++ [name]) = (names ++ [name]).flatMap ('/' :: ·) := by
    cases names <;> rfl
  rw [hne, List.flatMap_append]
  simp

theorem split_pathOf (h : ∀ n ∈ names, '/' ∉ n) (hne : names ≠ []) :
    Text.split '/' (pathOf names) = [] :: names := by
  obtain ⟨n, ns, rfl⟩ := List.exists_cons_of_ne_nil hne
  exact Text.split_append_flatMap List.not_mem_nil h

theorem getLast?_pathOf (h : PlainName name) (names : List Text) :
    (pathOf (names ++ [name])).getLast? ≠ some '/' := by
  intro hlast
  rw [pathOf_concat, List.getLast?_append, List.getLast?_cons_of_ne_nil h.ne_nil] at hlast
  cases hname : name.getLast? with
  | none => exact h.ne_nil (List.getLast?_eq_none_iff.1 hname)
  | some c =>
    rw [hname] at hlast
    obtain rfl : c = '/' := Option.some.inj hlast
    exact h.no_slash (List.mem_of_getLast? hname)

theorem getLast?_names (names : List Text) (name : Text) :
    ([] :: (names ++ [name])).getLast? = some name := by
  rw [← List.cons_append, List.getLast?_concat]

theorem dropLast_names (names : List Text) (name : Text) :
    ([] :: (names ++ [name])).dropLast = [] :: names := by
  rw [← List.cons_append, List.dropLast_concat]

/-- The path of a place is written with the names that lead there. -/
theorem namesOf_pathOf (h : ∀ n ∈ names ++ [name], PlainName n) :
    namesOf (pathOf (names ++ [name])) = [] :: (names ++ [name]) := by
  have hname : PlainName name := h name (by simp)
  have hpath : pathOf (names ++ [name]) ≠ [] := by
    rw [pathOf_concat]
    simp
  rw [namesOf_eq_split hpath (getLast?_pathOf hname names),
    split_pathOf (fun n hn => (h n hn).no_slash) (by simp)]

/-! ## 2. Ways from the root -/

/-- Walking a way and then another one is walking both. -/
theorem walk_append (l : Location) (names more : List Text) :
    d.walk l (names ++ more) =
      match d.walk l names with
      | .error e => .error e
      | .ok k => d.walk k more := by
  induction names generalizing l with
  | nil => rfl
  | cons n ns ih =>
    rw [List.cons_append, walk, walk]
    split
    · split
      · rfl
      · exact ih _
    · rfl
    · rfl

theorem not_prefix_concat (names : List Text) (name : Text) : ¬ names ++ [name] <+: names := by
  intro h
  have hle := h.length_le
  rw [List.length_append, List.length_singleton] at hle
  omega

def Passable (d : Disk) (names : List Text) : Prop :=
  ∀ p, p <+: names → d.node? p = some .directory ∨ d.node? p = none

def Paved (d : Disk) (names : List Text) : Prop :=
  ∀ p, p <+: names → d.node? p = some .directory

theorem Passable.left (h : d.Passable (names ++ [name])) : d.Passable names :=
  fun p hp => h p (hp.trans (List.prefix_append names [name]))

theorem paved_nil : d.Paved [] := by
  intro p hp
  obtain rfl := List.prefix_nil.1 hp
  rfl

theorem paved_concat_iff :
    d.Paved (names ++ [name]) ↔ d.Paved names ∧ d.node? (names ++ [name]) = some .directory := by
  simp only [Paved, List.prefix_concat_iff]
  constructor
  · intro h
    exact ⟨fun p hp => h p (.inr hp), h _ (.inl rfl)⟩
  · rintro ⟨hleft, hlast⟩ p (rfl | hp)
    · exact hlast
    · exact hleft p hp

/-- On a passable way one gets to its end, or something is missing before it. -/
theorem walk_of_passable (hplain : ∀ n ∈ names, PlainName n) (h : d.Passable names) :
    (d.walk [] names = .ok names ∧ (d.node? names = some .directory → d.Paved names)) ∨
      d.walk [] names = .error .notFound := by
  -- the last name is walked last: what is above it decides whether it can be reached
  induction names using List.reverseRecOn with
  | nil => exact .inl ⟨rfl, fun _ => paved_nil⟩
  | append_singleton names name ih =>
    have hname : PlainName name := hplain name (by simp)
    rcases ih (fun n hn => hplain n (by simp [hn])) h.left with ⟨hwalk, hpaved⟩ | hwalk
    · rcases h names (List.prefix_append names [name]) with hdir | hnone
      · refine .inl ⟨?_, fun hlast => paved_concat_iff.2 ⟨hpaved hdir, hlast⟩⟩
        exact walk_concat_eq_ok_iff.2 ⟨names, hwalk, hdir, hname.short, hname.step_eq names⟩
      · right
        rw [walk_append, hwalk]
        dsimp only
        rw [walk, hnone]
    · right
      rw [walk_append, hwalk]

/-- A paved way leads to where its names say. -/
theorem walk_of_paved (hplain : ∀ n ∈ names, PlainName n) (h : d.Paved names) :
    d.walk [] names = .ok names := by
  induction names using List.reverseRecOn with
  | nil => rfl
  | append_singleton names name ih =>
    have hname : PlainName name := hplain name (by simp)
    obtain ⟨hleft, -⟩ := paved_concat_iff.1 h
    have hwalk := ih (fun n hn => hplain n (by simp [hn])) hleft
    exact walk_concat_eq_ok_iff.2
      ⟨names, hwalk, hleft names (List.prefix_refl names), hname.short, hname.step_eq names⟩

theorem place_pathOf (hlength : (Text.utf8 (pathOf l)).length ≤ maxPath) (names : List Text) :
    d.place (pathOf l) ([] :: names) = d.walk [] names := by
  obtain ⟨r, hr⟩ : ∃ r, pathOf l = '/' :: r := by
    cases l with
    | nil => exact ⟨[], rfl⟩
    | cons n ns => exact ⟨n ++ ns.flatMap ('/' :: ·), rfl⟩
  have horigin : d.origin (pathOf l) = [] := by
    rw [hr]
    rfl
  rw [place, if_neg (by rw [hr]; exact List.cons_ne_nil _ _), if_neg (Nat.not_lt.2 hlength), horigin,
    walk]
  rfl

/-! ## 3. Making directories -/

/-- A place behind a paved way is free for a new file exactly if nothing is there. -/
theorem newPlace_pathOf (hplain : ∀ n ∈ names ++ [name], PlainName n)
    (hlength : (Text.utf8 (pathOf (names ++ [name]))).length ≤ maxPath)
    (hwalk : d.walk [] names = .ok names) (hdir : d.node? names = some .directory) :
    d.newPlace (pathOf (names ++ [name])) =
      if (d.node? (names ++ [name])).isSome then .error .exists else .ok (names ++ [name]) := by
  have hname : PlainName name := hplain name (by simp)
  rw [newPlace, namesOf_pathOf hplain, getLast?_names]
  simp only [dropLast_names, place_pathOf hlength, hwalk, hdir, if_neg (Nat.not_lt.2 hname.short),
    hname.step_eq]

/-- Nothing can be made below what is missing. -/
theorem newPlace_of_missing (hplain : ∀ n ∈ names ++ [name], PlainName n)
    (hlength : (Text.utf8 (pathOf (names ++ [name]))).length ≤ maxPath)
    (h : d.walk [] names = .error .notFound ∨ d.walk [] names = .ok names ∧ d.node? names = none) :
    d.newPlace (pathOf (names ++ [name])) = .error .notFound := by
  rw [newPlace, namesOf_pathOf hplain, getLast?_names]
  rcases h with hwalk | ⟨hwalk, hnone⟩
  · simp only [dropLast_names, place_pathOf hlength, hwalk]
  · simp only [dropLast_names, place_pathOf hlength, hwalk, hnone]

/-- The path of a place behind a paved way leads there. -/
theorem place_of_paved (hplain : ∀ n ∈ names ++ [name], PlainName n)
    (hlength : (Text.utf8 (pathOf (names ++ [name]))).length ≤ maxPath) (h : d.Paved names) :
    d.place (pathOf (names ++ [name])) (Text.split '/' (pathOf (names ++ [name]))) =
      .ok (names ++ [name]) := by
  have hname : PlainName name := hplain name (by simp)
  have hwalk := walk_of_paved (fun n hn => hplain n (by simp [hn])) h
  rw [split_pathOf (fun n hn => (hplain n hn).no_slash) (by simp), place_pathOf hlength]
  exact walk_concat_eq_ok_iff.2
    ⟨names, hwalk, h names (List.prefix_refl names), hname.short, hname.step_eq names⟩

/-- What a disk keeps of another when the way to a place is paved: everything off the way. -/
structure PavedFrom (d e : Disk) (names : List Text) : Prop where
  paved : e.Paved names
  same : ∀ l, ¬ l <+: names → e.node? l = d.node? l

/-- At the end of a paved way a directory is there or is made. -/
theorem ensureDirectory_eq_ok (hplain : ∀ n ∈ names ++ [name], PlainName n)
    (hlength : (Text.utf8 (pathOf (names ++ [name]))).length ≤ maxPath) (h : d.Paved names)
    (hlast : d.node? (names ++ [name]) = some .directory ∨ d.node? (names ++ [name]) = none) :
    ∃ e, d.ensureDirectory (pathOf (names ++ [name])) = .ok e ∧ PavedFrom d e (names ++ [name]) := by
  have hwalk := walk_of_paved (fun n hn => hplain n (by simp [hn])) h
  have hnew := newPlace_pathOf hplain hlength hwalk (h names (List.prefix_refl names))
  -- a directory that exists is refused and then found to be one, as wanted
  rcases hlast with hdir | hnone
  · simp only [hdir, Option.isSome_some, if_true] at hnew
    have hdirectory : d.isDirectory (pathOf (names ++ [name])) = true := by
      rw [isDirectory, find_eq_ok_iff.2 ⟨place_of_paved hplain hlength h, hdir⟩]
    refine ⟨d, ?_, paved_concat_iff.2 ⟨h, hdir⟩, fun _ _ => rfl⟩
    rw [ensureDirectory, makeDirectory, hnew]
    dsimp only
    rw [if_pos hdirectory]
  · simp only [hnone, Option.isSome_none, Bool.false_eq_true, if_false] at hnew
    have hfree : d.node? (names ++ [name]) ≠ some .directory := by
      rw [hnone]
      exact nofun
    refine ⟨d.put (names ++ [name]) .directory, ?_, ?_, ?_⟩
    · rw [ensureDirectory, makeDirectory, hnew]
    · exact paved_concat_iff.2 ⟨fun p hp => directory_put hfree _ p (h p hp),
        node?_put_self (by simp) d .directory⟩
    · intro l hl
      apply node?_put_of_ne
      rintro rfl
      exact hl (List.prefix_refl _)

theorem length_pathOf_le (names : List Text) (name : Text) :
    (Text.utf8 (pathOf names)).length ≤ (Text.utf8 (pathOf (names ++ [name]))).length := by
  rw [pathOf_concat, Text.utf8_append, List.length_append]
  cases names with
  | nil =>
    have hslash : Text.utf8 ('/' :: name) = Text.utf8 ['/'] ++ Text.utf8 name :=
      Text.utf8_append ['/'] name
    rw [hslash, List.length_append]
    exact Nat.le_trans (Nat.le_add_right _ _) (Nat.le_add_left _ _)
  | cons n ns => exact Nat.le_add_right _ _

/-- A directory whose parent is missing is made after its parent. -/
theorem makeDirectories_of_missing {first : Text}
    (h : d.makeDirectory (pathWith first (names ++ [name])) = .error .notFound)
    (hup : d.makeDirectories first (dropIdle names) = .ok e) :
    d.makeDirectories first (names ++ [name]) = e.ensureDirectory (pathWith first (names ++ [name])) := by
  have hne : names ++ [name] ≠ [] := by simp
  rw [makeDirectories, h]
  simp only [dif_neg hne, List.dropLast_concat, hup]

/-- A directory whose parent is there is made at once. -/
theorem makeDirectories_of_not_missing {first : Text}
    (h : d.makeDirectory (pathWith first names) ≠ .error .notFound) :
    d.makeDirectories first names = d.ensureDirectory (pathWith first names) := by
  rw [makeDirectories]
  split
  · rename_i hmissing
    exact absurd hmissing h
  · rfl

theorem makeDirectories_root (d : Disk) : d.makeDirectories [] [] = .ok d := by
  have hroot : d.makeDirectory ['/'] = .error .exists := rfl
  have hfind : d.find ['/'] = .ok ([], .directory) := by
    rw [find_eq_ok_iff, place_eq_ok_iff]
    exact ⟨⟨by decide, by decide, rfl⟩, rfl⟩
  have hdirectory : d.isDirectory ['/'] = true := by
    rw [isDirectory, hfind]
  rw [makeDirectories_of_not_missing (by rw [pathWith_nil]; exact nofun), pathWith_nil]
  show d.ensureDirectory ['/'] = .ok d
  rw [ensureDirectory, hroot]
  dsimp only
  rw [if_pos hdirectory]

/-- A directory cannot be made for now if something is missing before it. -/
theorem missing_or_paved (hplain : ∀ n ∈ names ++ [name], PlainName n)
    (hlength : (Text.utf8 (pathOf (names ++ [name]))).length ≤ maxPath)
    (h : d.Passable (names ++ [name])) :
    d.makeDirectory (pathOf (names ++ [name])) = .error .notFound ∨
      d.Paved names ∧ d.makeDirectory (pathOf (names ++ [name])) ≠ .error .notFound := by
  have hplains : ∀ n ∈ names, PlainName n := fun n hn => hplain n (by simp [hn])
  rw [makeDirectory]
  rcases walk_of_passable hplains h.left with ⟨hwalk, hpaved⟩ | hwalk
  · rcases h names (List.prefix_append names [name]) with hdir | hnone
    · refine .inr ⟨hpaved hdir, ?_⟩
      rw [newPlace_pathOf hplain hlength hwalk hdir]
      by_cases hthere : (d.node? (names ++ [name])).isSome = true
      · rw [if_pos hthere]
        exact nofun
      · rw [if_neg hthere]
        exact nofun
    · left
      rw [newPlace_of_missing hplain hlength (.inr ⟨hwalk, hnone⟩)]
  · left
    rw [newPlace_of_missing hplain hlength (.inl hwalk)]

/-- Where nothing but directories is on the way, those that are missing are made. -/
theorem makeDirectories_eq_ok (hplain : ∀ n ∈ names, PlainName n)
    (hlength : (Text.utf8 (pathOf names)).length ≤ maxPath) (h : d.Passable names) :
    ∃ e, d.makeDirectories [] names = .ok e ∧ PavedFrom d e names := by
  induction names using List.reverseRecOn with
  | nil => exact ⟨d, makeDirectories_root d, paved_nil, fun _ _ => rfl⟩
  | append_singleton names name ih =>
    have hplains : ∀ n ∈ names, PlainName n := fun n hn => hplain n (by simp [hn])
    have hend := h _ (List.prefix_refl (names ++ [name]))
    rcases missing_or_paved hplain hlength h with hmissing | ⟨hpaved, hthere⟩
    · -- first those above are made, and then this one
      obtain ⟨e, hmake, hfrom⟩ :=
        ih hplains (Nat.le_trans (length_pathOf_le names name) hlength) h.left
      rw [← hfrom.same _ (not_prefix_concat names name)] at hend
      obtain ⟨f, hensure, hto⟩ := ensureDirectory_eq_ok hplain hlength hfrom.paved hend
      refine ⟨f, ?_, hto.paved, ?_⟩
      · have hfirst : d.makeDirectories [] (dropIdle names) = .ok e := by
          rw [dropIdle_of_plain hplains]
          exact hmake
        rw [makeDirectories_of_missing (by rw [pathWith_nil]; exact hmissing) hfirst, pathWith_nil]
        exact hensure
      · intro l hl
        rw [hto.same l hl]
        exact hfrom.same l fun hbefore => hl (hbefore.trans (List.prefix_append names [name]))
    · rw [makeDirectories_of_not_missing (by rw [pathWith_nil]; exact hthere), pathWith_nil]
      exact ensureDirectory_eq_ok hplain hlength hpaved hend

end Disk

end SecretWeave
