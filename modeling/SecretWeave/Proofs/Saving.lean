import SecretWeave.Proofs.Config
import SecretWeave.Proofs.Disk.Making
import SecretWeave.Proofs.Utf8

/-!
# A saved configuration is loaded

What is saved under a path is found there by what loads from it, and as every configuration is read
back from its document, it is the same configuration. Whether saving succeeds is up to the disk and the
path alone (`saveTo_loadFrom`).
-/

namespace SecretWeave

variable {d e : Disk} {path name : Text} {names : List Text} {mode mask : Nat} {content : Bytes}
  {l : Location} {c : Config}

namespace Disk

/-! ## 1. Writing a file -/

theorem create_of_error {err : SystemError} (h : d.newPlace path = .error err) (mode : Nat) :
    ∃ e, ∀ content, d.create path mode content = .error e := by
  -- only where something is already, a final slash changes what is said
  by_cases hexists : err = .exists
  · subst hexists
    by_cases hslash : path.getLast? = some '/'
    · exact ⟨.isDirectory, fun _ => by rw [create, h]; exact if_pos hslash⟩
    · exact ⟨.exists, fun _ => by rw [create, h]; exact if_neg hslash⟩
  · refine ⟨err, fun content => ?_⟩
    rw [create, h]
    split
    · rename_i heq
      exact absurd (Except.error.inj heq) hexists
    · rename_i heq
      rw [Except.error.inj heq]
    · rename_i heq
      cases heq

/-- A file can be made or not, whatever is written to it. -/
theorem create_outcome (d : Disk) (path : Text) (mode : Nat) :
    (∃ e, ∀ content, d.create path mode content = .error e) ∨
      ∀ content, ∃ e, d.create path mode content = .ok e := by
  cases hnew : d.newPlace path with
  | error err => exact .inl (create_of_error hnew mode)
  | ok l =>
    by_cases hslash : path.getLast? = some '/'
    · exact .inl ⟨.isDirectory, fun _ => by rw [create, hnew]; exact if_pos hslash⟩
    · exact .inr fun _ => ⟨_, by rw [create, hnew]; exact if_neg hslash⟩

/-- How writing ends does not depend on what is written: it fails, or a device takes it, or it is the
content of a file. -/
theorem writeFile_outcome (d : Disk) (path : Text) (mode : Nat) :
    (∃ e, ∀ content, d.writeFile path mode content = .error e) ∨
    (∃ l device, d.find path = .ok (l, .device device) ∧
      ∀ content, d.writeFile path mode content = .ok d) ∨
    ∀ content, ∃ e l mode', d.writeFile path mode content = .ok e ∧
      e.find path = .ok (l, .file mode' content) := by
  unfold writeFile has
  cases hfind : d.find path with
  | error err =>
    -- nothing is found, so a file is made
    simp only [Bool.false_eq_true, if_false]
    rcases create_outcome d path mode with ⟨e, herror⟩ | hmade
    · exact .inl ⟨e, herror⟩
    · refine .inr (.inr fun content => ?_)
      obtain ⟨e, he⟩ := hmade content
      obtain ⟨l, hfound, -, -⟩ := find_of_create he
      exact ⟨e, l, keptMode mode, he, hfound⟩
  | ok p =>
    -- what is there is written over
    obtain ⟨l, n⟩ := p
    simp only [if_true]
    cases n with
    | directory => exact .inl ⟨.isDirectory, fun _ => by simp only [overwrite, hfind]⟩
    | program name => exact .inl ⟨.permissionDenied, fun _ => by simp only [overwrite, hfind]⟩
    | device device =>
      cases device
      case full => exact .inl ⟨.noSpace, fun _ => by simp only [overwrite, hfind]⟩
      case terminal => exact .inl ⟨.noDevice, fun _ => by simp only [overwrite, hfind]⟩
      all_goals exact .inr (.inl ⟨l, _, rfl, fun _ => by simp only [overwrite, hfind]⟩)
    | file mode' old =>
      refine .inr (.inr fun content => ?_)
      have hwrite : d.overwrite path content = .ok (d.put l (.file (keptMode mode') content)) := by
        simp only [overwrite, hfind]
      rcases find_of_overwrite hwrite with ⟨l', m, _, -, hfound, -⟩ | ⟨l', device, hdevice, -⟩
      · exact ⟨_, l', keptMode m, hwrite, hfound⟩
      · cases hfind.symm.trans hdevice

/-- A file can be at the end of a plain path from the root: the path is not too long, only directories
are on the way, and at its end is a file or nothing. -/
structure TakesFile (d : Disk) (names : List Text) (name : Text) : Prop where
  plain : ∀ n ∈ names ++ [name], PlainName n
  short : (Text.utf8 (pathOf (names ++ [name]))).length ≤ maxPath
  passable : d.Passable names
  free : d.node? (names ++ [name]) = none ∨
    ∃ mode content, d.node? (names ++ [name]) = some (.file mode content)

/-- The directories on the way to a file can be made, and nothing off the way changes. -/
theorem makeParent_eq_ok (h : d.TakesFile names name) :
    ∃ e, d.makeParent (pathOf (names ++ [name])) = .ok e ∧ PavedFrom d e names := by
  have hplains : ∀ n ∈ names, PlainName n := fun n hn => h.plain n (by simp [hn])
  have hsplit : Text.split '/' (pathOf (names ++ [name])) = [] :: (names ++ [name]) :=
    split_pathOf (fun n hn => (h.plain n hn).no_slash) (by simp)
  obtain ⟨e, hmake, hfrom⟩ := makeDirectories_eq_ok hplains
    (Nat.le_trans (length_pathOf_le names name) h.short) h.passable
  refine ⟨e, ?_, hfrom⟩
  rw [makeParent, hsplit]
  dsimp only
  rw [dropIdle_of_plain h.plain, if_neg (by simp), List.dropLast_concat, dropIdle_of_plain hplains]
  exact hmake

theorem TakesFile.of_pavedFrom (h : d.TakesFile names name) (hfrom : PavedFrom d e names) :
    e.TakesFile names name := by
  have hsame := hfrom.same _ (not_prefix_concat names name)
  exact ⟨h.plain, h.short, fun p hp => .inl (hfrom.paved p hp), by rw [hsame]; exact h.free⟩

/-- A file is written where one can be, once the directories on the way are there. -/
theorem exists_writeFile (h : d.TakesFile names name) (hpaved : d.Paved names) (mode : Nat)
    (content : Bytes) :
    ∃ e l mode', d.writeFile (pathOf (names ++ [name])) mode content = .ok e ∧
      e.find (pathOf (names ++ [name])) = .ok (l, .file mode' content) := by
  have hplace := place_of_paved h.plain h.short hpaved
  have hfree : d.node? (names ++ [name]) ≠ some .directory := by
    rcases h.free with hnone | ⟨mode', old, hfile⟩
    · rw [hnone]
      exact nofun
    · rw [hfile]
      exact nofun
  suffices hwrite : ∃ mode', d.writeFile (pathOf (names ++ [name])) mode content =
      .ok (d.put (names ++ [name]) (.file mode' content)) by
    obtain ⟨mode', hwrite⟩ := hwrite
    exact ⟨_, _, _, hwrite, find_put hplace hfree _⟩
  rcases h.free with hnone | ⟨mode', old, hfile⟩
  · have hfind : d.find (pathOf (names ++ [name])) = .error .notFound := by
      rw [find, hplace]
      simp only [hnone]
    have hhas : ¬ d.has (pathOf (names ++ [name])) = true := by simp [has, hfind]
    have hwalk := walk_of_paved (fun n hn => h.plain n (by simp [hn])) hpaved
    have hnew : d.newPlace (pathOf (names ++ [name])) = .ok (names ++ [name]) := by
      rw [newPlace_pathOf h.plain h.short hwalk (hpaved names (List.prefix_refl names)), hnone]
      rfl
    refine ⟨keptMode mode, ?_⟩
    rw [writeFile, if_neg hhas, create, hnew]
    exact if_neg (getLast?_pathOf (h.plain name (by simp)) names)
  · have hfind := find_eq_ok_iff.2 ⟨hplace, hfile⟩
    have hhas : d.has (pathOf (names ++ [name])) = true := by rw [has, hfind]
    refine ⟨keptMode mode', ?_⟩
    rw [writeFile, if_pos hhas, overwrite, hfind]

end Disk

namespace Config

/-! ## 2. Saving and loading -/

/-- A file that holds a rendered configuration is loaded as that configuration. -/
theorem loadFrom_of_find (h : d.find path = .ok (l, .file mode (Text.utf8 (render c)))) :
    loadFrom d path = .ok (some c) := by
  have hhas : d.has path = true := by
    rw [Disk.has, h]
  have hread : d.read path = .ok (render c) := by
    rw [Disk.read, Disk.readBytes, h]
    dsimp only
    rw [Text.decode?_utf8]
  rw [loadFrom, if_pos hhas, hread]
  dsimp only
  rw [parse_render]

/-- Saving succeeds, and what is loaded then is the configuration that was saved. So it makes the same
choices. -/
def Restores (d : Disk) (path : Text) (mask : Nat) (c : Config) : Prop :=
  ∃ e loaded, saveTo d path mask c = .ok e ∧ loadFrom e path = .ok (some loaded) ∧ loaded = c ∧
    ∀ explicit, loaded.sourceOr explicit = c.sourceOr explicit ∧
      loaded.versionOr explicit = c.versionOr explicit

/-- Saving restores as soon as the file holds what was rendered, whatever its permissions. -/
theorem restores_of_writeFile (hparent : d.makeParent path = .ok e)
    (h : ∃ f l mode', e.writeFile path (Disk.masked 0o666 mask) (Text.utf8 (render c)) = .ok f ∧
      f.find path = .ok (l, .file mode' (Text.utf8 (render c)))) : Restores d path mask c := by
  obtain ⟨f, l, mode', hwrite, hfind⟩ := h
  refine ⟨f, c, ?_, loadFrom_of_find hfind, rfl, fun _ => ⟨rfl, rfl⟩⟩
  rw [saveTo, hparent]
  dsimp only
  rw [hwrite]

/-- A configuration is read back from its document, whatever texts it holds. Saving fails for all
configurations or for none: the system refuses the path, or a device is there, which keeps nothing, or
every configuration is loaded again as it was saved, also the one that makes no choice. It is so where
a file can be: at the end of a plain path from the root, where a file or nothing is, with the
directories before it there or missing. -/
theorem saveTo_loadFrom (d : Disk) (path : Text) (mask : Nat) :
    (∀ c, parse (render c) = .ok c) ∧
    ((∃ e, ∀ c, saveTo d path mask c = .error (.system e)) ∨
      (∃ e l device, e.find path = .ok (l, .device device) ∧ ∀ c, saveTo d path mask c = .ok e) ∨
      ∀ c, Restores d path mask c) ∧
    ∀ names name, path = Disk.pathOf (names ++ [name]) → d.TakesFile names name →
      ∀ c, Restores d path mask c := by
  refine ⟨parse_render, ?_, ?_⟩
  · -- the way is made before the choices are looked at
    cases hparent : d.makeParent path with
    | error err => exact .inl ⟨err, fun c => by rw [saveTo, hparent]⟩
    | ok e =>
      rcases e.writeFile_outcome path (Disk.masked 0o666 mask) with
        ⟨err, herror⟩ | ⟨l, device, hfind, hwrite⟩ | hwrite
      · refine .inl ⟨err, fun c => ?_⟩
        rw [saveTo, hparent]
        dsimp only
        rw [herror]
      · refine .inr (.inl ⟨e, l, device, hfind, fun c => ?_⟩)
        rw [saveTo, hparent]
        dsimp only
        rw [hwrite]
      · exact .inr (.inr fun c => restores_of_writeFile hparent (hwrite _))
  · rintro names name rfl h c
    obtain ⟨e, hparent, hfrom⟩ := Disk.makeParent_eq_ok h
    have hwrite := Disk.exists_writeFile (h.of_pavedFrom hfrom) hfrom.paved
      (Disk.masked 0o666 mask) (Text.utf8 (render c))
    exact restores_of_writeFile hparent hwrite

def homeNames : List Text :=
  ["home".toList, "me".toList, ".config".toList, "secretinject".toList]

theorem takesFile_home : (Disk.empty []).TakesFile homeNames "config.toml".toList where
  plain := by
    have hall : ∀ n ∈ homeNames ++ ["config.toml".toList], n ≠ [] ∧ n ≠ ['.'] ∧ n ≠ ['.', '.'] ∧
        '/' ∉ n ∧ '\x00' ∉ n ∧ (Text.utf8 n).length ≤ Disk.maxName := by decide +kernel
    intro n hn
    obtain ⟨hnil, hdot, hdots, hslash, hnul, hshort⟩ := hall n hn
    exact ⟨hnil, hdot, hdots, hslash, hnul, hshort⟩
  short := by decide +kernel
  passable := by
    have hall : ∀ n < 5, (Disk.empty []).node? (homeNames.take n) = some .directory ∨
        (Disk.empty []).node? (homeNames.take n) = Option.none := by decide +kernel
    intro p hp
    have hlength : p.length < 5 := Nat.lt_succ_of_le hp.length_le
    rw [List.prefix_iff_eq_take.1 hp]
    exact hall p.length hlength
  free := .inl (by decide +kernel)

theorem saveTo_loadFrom_home :
    (Disk.empty []).TakesFile homeNames "config.toml".toList ∧
      Restores (Disk.empty []) "/home/me/.config/secretinject/config.toml".toList 0o022
        ⟨some "it's \"\"\"\\\r\n".toList, Option.none⟩ :=
  ⟨takesFile_home, (saveTo_loadFrom _ _ _).2.2 homeNames "config.toml".toList (by decide +kernel)
    takesFile_home _⟩

end Config

end SecretWeave
