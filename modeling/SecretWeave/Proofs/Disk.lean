import SecretWeave.Disk

/-!
# What a written file changes

A file that is put at a place where no directory is leaves all ways as they are: a path leads where it
led before. So a file that was made or overwritten is found under its path, with the content that was
written, and every other place is as it was (`find_of_create`, `find_of_overwrite`).
-/

namespace SecretWeave

variable {d e : Disk} {l m : Location} {n : Node} {path : Text} {content : Bytes} {mode : Nat}

/-! ## 1. Names of a path -/

theorem Text.split_of_not_mem {sep : Char} {s : Text} (hs : sep ∉ s) : split sep s = [s] := by
  induction s with
  | nil => rfl
  | cons c r ih =>
    rw [split, if_neg (List.ne_of_not_mem_cons hs).symm, ih (List.not_mem_of_not_mem_cons hs)]

/-- What stands before the first separator is the first part. -/
theorem Text.split_append_cons {sep : Char} {s : Text} (hs : sep ∉ s) (r : Text) :
    split sep (s ++ sep :: r) = s :: split sep r := by
  induction s with
  | nil => rw [List.nil_append, split, if_pos rfl]
  | cons c s ih =>
    rw [List.cons_append, split, if_neg (List.ne_of_not_mem_cons hs).symm,
      ih (List.not_mem_of_not_mem_cons hs)]

/-- Parts that are written behind separators are found again. -/
theorem Text.split_append_flatMap {sep : Char} {s : Text} {ss : List Text} (hs : sep ∉ s)
    (hss : ∀ x ∈ ss, sep ∉ x) : split sep (s ++ ss.flatMap (sep :: ·)) = s :: ss := by
  induction ss generalizing s with
  | nil => rw [List.flatMap_nil, List.append_nil, split_of_not_mem hs]
  | cons x ss ih =>
    have hrest := ih (hss x List.mem_cons_self) fun y hy => hss y (List.mem_cons_of_mem _ hy)
    rw [List.flatMap_cons, List.cons_append, split_append_cons hs, hrest]

/-- The last part of a text that does not end in the separator is not empty. -/
theorem Text.getLast?_split {sep : Char} {s : Text} (hs : s ≠ []) (hlast : s.getLast? ≠ some sep) :
    ∃ part, (split sep s).getLast? = some part ∧ part ≠ [] := by
  induction s with
  | nil => exact absurd rfl hs
  | cons c r ih =>
    rw [split]
    cases r with
    | nil =>
      have hc : c ≠ sep := fun h => hlast (by rw [h]; rfl)
      rw [if_neg hc]
      exact ⟨[c], rfl, List.cons_ne_nil c []⟩
    | cons c' r =>
      rw [List.getLast?_cons_cons] at hlast
      obtain ⟨part, hpart, hne⟩ := ih (List.cons_ne_nil c' r) hlast
      split
      · exact ⟨part, by rw [List.getLast?_cons, hpart, Option.getD_some], hne⟩
      · split
        · exact ⟨[c], rfl, List.cons_ne_nil c []⟩
        · rename_i first parts hparts
          rw [hparts] at hpart
          cases parts with
          | nil => exact ⟨c :: first, rfl, List.cons_ne_nil c first⟩
          | cons second parts =>
            rw [List.getLast?_cons_cons] at hpart
            exact ⟨part, by rwa [List.getLast?_cons_cons], hne⟩

namespace Disk

/-- Without a slash at its end a path has no empty names to drop there. -/
theorem namesOf_eq_split (hpath : path ≠ []) (hslash : path.getLast? ≠ some '/') :
    namesOf path = Text.split '/' path := by
  obtain ⟨name, hname, hne⟩ := Text.getLast?_split hpath hslash
  obtain ⟨names, hnames⟩ := List.getLast?_eq_some_iff.1 hname
  have hkept : ¬ name.isEmpty = true := by rwa [List.isEmpty_iff]
  rw [namesOf, hnames, List.reverse_concat, List.dropWhile_cons_of_neg hkept, List.reverse_cons,
    List.reverse_reverse]

/-! ## 2. Ways -/

/-- A way can be walked if its first step leaves a directory by a name that is not too long, and the
rest can be walked from there. -/
theorem walk_cons_eq_ok_iff {name : Text} {names : List Text} :
    d.walk l (name :: names) = .ok m ↔
      d.node? l = some .directory ∧ (Text.utf8 name).length ≤ maxName ∧
        d.walk (step l name) names = .ok m := by
  rw [walk]
  split
  · rename_i hdir
    by_cases hname : maxName < (Text.utf8 name).length
    · simp [hname, hdir, Nat.not_le_of_lt hname]
    · simp [hname, hdir, Nat.le_of_not_lt hname]
  · rename_i other hne hnode
    have hother : ¬ other = .directory := hne
    simp [hnode, hother]
  · rename_i hnode
    simp [hnode]

/-- The last step of a way, taken apart in the same manner as the first. -/
theorem walk_concat_eq_ok_iff {name : Text} {names : List Text} :
    d.walk l (names ++ [name]) = .ok m ↔
      ∃ k, d.walk l names = .ok k ∧ d.node? k = some .directory ∧
        (Text.utf8 name).length ≤ maxName ∧ step k name = m := by
  induction names generalizing l with
  | nil =>
    rw [List.nil_append, walk_cons_eq_ok_iff]
    simp only [walk, Except.ok.injEq, exists_eq_left']
  | cons first names ih =>
    simp only [List.cons_append, walk_cons_eq_ok_iff, ih]
    grind

/-- A path leads to a place if it is neither empty nor too long and its way can be walked. -/
theorem place_eq_ok_iff {names : List Text} : d.place path names = .ok l ↔
    path ≠ [] ∧ (Text.utf8 path).length ≤ maxPath ∧ d.walk (d.origin path) names = .ok l := by
  unfold place
  by_cases hpath : path = []
  · simp [hpath]
  · by_cases hlength : maxPath < (Text.utf8 path).length
    · simp [hpath, hlength, Nat.not_le_of_lt hlength]
    · simp [hpath, hlength, Nat.le_of_not_lt hlength]

/-- A disk that keeps the directories of another keeps its ways. -/
theorem walk_of_directories (h : ∀ k, d.node? k = some .directory → e.node? k = some .directory)
    {names : List Text} (hwalk : d.walk l names = .ok m) : e.walk l names = .ok m := by
  induction names generalizing l with
  | nil => exact hwalk
  | cons name names ih =>
    obtain ⟨hdir, hname, hrest⟩ := walk_cons_eq_ok_iff.1 hwalk
    exact walk_cons_eq_ok_iff.2 ⟨h l hdir, hname, ih hrest⟩

/-- What is put where no directory is leaves all directories. -/
theorem directory_put (h : d.node? l ≠ some .directory) (n : Node) (k : Location)
    (hk : d.node? k = some .directory) : (d.put l n).node? k = some .directory := by
  have hne : k ≠ l := fun heq => h (heq ▸ hk)
  rw [node?_put_of_ne hne, hk]

theorem ne_root_of_not_directory (h : d.node? l ≠ some .directory) : l ≠ [] := by
  rintro rfl
  exact h (if_pos rfl)

theorem place_put (h : d.node? m ≠ some .directory) (n : Node) {names : List Text}
    (hplace : d.place path names = .ok l) : (d.put m n).place path names = .ok l := by
  obtain ⟨hpath, hlength, hwalk⟩ := place_eq_ok_iff.1 hplace
  exact place_eq_ok_iff.2 ⟨hpath, hlength, walk_of_directories (directory_put h n) hwalk⟩

/-- What is put at the place of a path is found under the path. -/
theorem find_put (hplace : d.place path (Text.split '/' path) = .ok l)
    (h : d.node? l ≠ some .directory) (n : Node) : (d.put l n).find path = .ok (l, n) := by
  unfold find
  rw [place_put h n hplace]
  simp only [node?_put_self (ne_root_of_not_directory h)]

/-- What is found under a path is what is at its place. -/
theorem find_eq_ok_iff : d.find path = .ok (l, n) ↔
    d.place path (Text.split '/' path) = .ok l ∧ d.node? l = some n := by
  unfold find
  cases hplace : d.place path (Text.split '/' path) with
  | error e => simp
  | ok k =>
    dsimp only
    cases hnode : d.node? k with
    | none =>
      simp only [reduceCtorEq, Except.ok.injEq, false_iff, not_and]
      rintro rfl
      simp [hnode]
    | some n' =>
      simp only [Except.ok.injEq, Prod.mk.injEq]
      constructor
      · rintro ⟨rfl, rfl⟩
        exact ⟨rfl, hnode⟩
      · rintro ⟨rfl, hn⟩
        exact ⟨rfl, Option.some.inj (hnode.symm.trans hn)⟩

/-! ## 3. Permissions -/

/-- Something new is made in a directory, under a name that is free there. -/
theorem exists_of_newPlace (h : d.newPlace path = .ok l) :
    ∃ names name k, namesOf path = names ++ [name] ∧ d.place path names = .ok k ∧
      d.node? k = some .directory ∧ (Text.utf8 name).length ≤ maxName ∧ step k name = l ∧
      d.node? l = none := by
  unfold newPlace at h
  cases hlast : (namesOf path).getLast? with
  | none =>
    rw [hlast] at h
    dsimp only at h
    split at h <;> cases h
  | some name =>
    obtain ⟨names, hnames⟩ := List.getLast?_eq_some_iff.1 hlast
    rw [hlast, hnames, List.dropLast_concat] at h
    dsimp only at h
    split at h
    · cases h
    · rename_i k hplace
      split at h
      · cases h
      · rename_i hdir
        split at h
        · cases h
        · rename_i hname
          split at h
          · cases h
          · -- behind every refusal there is a place, and nothing there
            rename_i hfree
            obtain rfl := Except.ok.inj h
            exact ⟨names, name, k, hnames, hplace, hdir, Nat.le_of_not_lt hname, rfl,
              by simpa using hfree⟩
      · cases h

/-- Where something new would be, nothing is, and the path leads there. -/
theorem place_of_newPlace (h : d.newPlace path = .ok l) (hslash : path.getLast? ≠ some '/') :
    d.place path (Text.split '/' path) = .ok l ∧ d.node? l = none := by
  obtain ⟨names, name, k, hnames, hplace, hdir, hname, hstep, hfree⟩ := exists_of_newPlace h
  obtain ⟨hpath, hlength, hwalk⟩ := place_eq_ok_iff.1 hplace
  -- the way to the directory and one step more are the way of the whole path
  have hway := walk_concat_eq_ok_iff.2 ⟨k, hwalk, hdir, hname, hstep⟩
  rw [← hnames, namesOf_eq_split hpath hslash] at hway
  exact ⟨place_eq_ok_iff.2 ⟨hpath, hlength, hway⟩, hfree⟩

/-- A new file is found under its path; nothing was there before, and no other place is touched. -/
theorem find_of_create (h : d.create path mode content = .ok e) :
    ∃ l, e.find path = .ok (l, .file (keptMode mode) content) ∧ d.node? l = none ∧
      ∀ k, k ≠ l → e.node? k = d.node? k := by
  unfold create at h
  split at h
  · split at h <;> cases h
  · cases h
  · rename_i l hnew
    split at h
    · cases h
    · rename_i hslash
      obtain rfl := Except.ok.inj h
      obtain ⟨hplace, hnode⟩ := place_of_newPlace hnew hslash
      refine ⟨l, find_put hplace ?_ _, hnode, fun k hk => node?_put_of_ne hk d _⟩
      rw [hnode]
      exact nofun

/-- A file that was overwritten is found under its path with its new content; a device takes what
is written to it. No other place is touched. -/
theorem find_of_overwrite (h : d.overwrite path content = .ok e) :
    (∃ l mode old, d.find path = .ok (l, .file mode old) ∧
      e.find path = .ok (l, .file (keptMode mode) content) ∧
      ∀ k, k ≠ l → e.node? k = d.node? k) ∨
    ∃ l device, d.find path = .ok (l, .device device) ∧ e = d := by
  unfold overwrite at h
  cases hfind : d.find path with
  | error err => simp [hfind] at h
  | ok p =>
    obtain ⟨l, n⟩ := p
    rw [hfind] at h
    cases n with
    | directory => cases h
    | program name => cases h
    | device device =>
      refine .inr ⟨l, device, rfl, ?_⟩
      cases device <;> cases h <;> rfl
    | file mode old =>
      obtain rfl := Except.ok.inj h
      obtain ⟨hplace, hnode⟩ := find_eq_ok_iff.1 hfind
      refine .inl ⟨l, mode, old, rfl, find_put hplace ?_ _, fun k hk => node?_put_of_ne hk d _⟩
      rw [hnode]
      exact nofun

end Disk

end SecretWeave
