import SecretWeave.Text.Name
import SecretWeave.Yaml.Document

/-!
# Keys of a document

The keys of a mapping that is read are different values (`keysDiffer_of_load`). What a number is
written as is no identifier (`isName_text`).
-/

namespace SecretWeave

/-! ## 1. Numbers -/

theorem Text.startsName_of_isDigit {c : Char} (h : c.isDigit = true) : startsName c = false := by
  simp only [Char.isDigit, Bool.and_eq_true, decide_eq_true_eq, UInt32.le_iff_toNat_le] at h
  obtain ⟨hlow, hhigh⟩ : 48 ≤ c.toNat ∧ c.toNat ≤ 57 := h
  have hmark : c ≠ '_' := by
    rintro rfl
    exact absurd hhigh (by decide)
  have halpha : c.isAlpha = false := by
    rw [← Bool.not_eq_true]
    intro halpha
    have hletter : (decide ('A'.val ≤ c.val ∧ c.val ≤ 'Z'.val) ||
        (decide ('a'.val ≤ c.val) && decide (c.val ≤ 'z'.val))) = true := halpha
    simp only [Bool.or_eq_true, Bool.and_eq_true, decide_eq_true_eq, UInt32.le_iff_toNat_le] at hletter
    have hcase : (65 ≤ c.toNat ∧ c.toNat ≤ 90) ∨ (97 ≤ c.toNat ∧ c.toNat ≤ 122) := hletter
    omega
  simp [startsName, halpha, hmark]

theorem Text.exists_ofNat_eq (n : Nat) : ∃ c r, ofNat n = c :: r ∧ c.isDigit = true := by
  have hdigits : ∀ c ∈ ofNat n, c.isDigit = true :=
    fun c hc => Nat.isDigit_of_mem_toDigits (by decide) (by decide) hc
  cases h : ofNat n with
  | nil => exact absurd h Nat.toDigits_ne_nil
  | cons c r => exact ⟨c, r, rfl, hdigits c (h ▸ List.mem_cons_self)⟩

/-- A decimal is written with a digit at its start, in any notation. -/
theorem Notation.exists_write_eq (f : Notation) (d : Decimal) :
    ∃ c r, f.write d = c :: r ∧ c.isDigit = true := by
  obtain ⟨c, r, hdigits, hc⟩ := Text.exists_ofNat_eq d.digits
  unfold Notation.write
  simp only [hdigits]
  split
  · exact ⟨c, _, rfl, hc⟩
  · split
    · -- there is a digit in front of the point
      rename_i hpoint
      obtain ⟨k, hk⟩ : ∃ k, (((c :: r).length : Int) + d.exponent).toNat = k + 1 := by
        simp only [Bool.and_eq_true, decide_eq_true_eq] at hpoint
        exact Nat.exists_eq_succ_of_ne_zero (by omega)
      rw [hk, List.take_succ_cons]
      exact ⟨c, _, rfl, hc⟩
    · split
      · -- a small number starts with the zero in front of its point
        exact ⟨'0', _, rfl, rfl⟩
      · split
        · rename_i d' h
          obtain ⟨rfl, rfl⟩ := List.cons.inj h
          exact ⟨c, _, rfl, hc⟩
        · rename_i d' ds _ h
          obtain ⟨rfl, rfl⟩ := List.cons.inj h
          exact ⟨c, _, rfl, hc⟩
        · rename_i h
          cases h

namespace Yaml

/-- What a number is written as is no identifier. -/
theorem isName_text (n : Number) : Text.isName n.text = false := by
  have hdigit : ∀ {s : Text}, (∃ c r, s = c :: r ∧ c.isDigit = true) → Text.isName s = false := by
    rintro s ⟨c, r, rfl, hc⟩
    rw [Text.isName, Text.startsName_of_isDigit hc, Bool.false_and]
  cases n with
  | natural n => exact hdigit (Text.exists_ofNat_eq n)
  | negative n => rfl
  | float x =>
    cases hx : x.negative with
    | false =>
      rw [Number.text, hx]
      exact hdigit (Notation.exists_write_eq _ _)
    | true =>
      rw [Number.text, hx]
      rfl
  | infinite below => cases below <;> rfl
  | nan => rfl

/-! ## 2. Mappings -/

def KeysDiffer (es : List (Value × Value)) : Prop :=
  es.Pairwise fun a b => a.1.same b.1 = false

variable {d : Document} {nodes : Array Node} {item : Progress → Build Value} {p q : Progress}
  {es before : List (Value × Value)}

/-- An entry is only added if its key is none of those before. -/
theorem keysDiffer_of_buildEntries {fuel : Nat}
    (h : buildEntries d nodes item fuel before p = .ok (es, q)) :
    KeysDiffer es ∧ ∀ b ∈ before, ∀ e ∈ es, b.1.same e.1 = false := by
  induction fuel generalizing before p q es with
  | zero => cases h
  | succ fuel ih =>
    rw [buildEntries] at h
    split at h
    · cases h
    · obtain ⟨rfl, -⟩ := Prod.mk.inj (Except.ok.inj h)
      exact ⟨.nil, by simp⟩
    · split at h
      · cases h
      · rename_i k p' _
        split at h
        · cases h
        · rename_i hnew
          split at h
          · cases h
          · rename_i v p'' _
            split at h
            · cases h
            · rename_i rest p''' hrest
              obtain ⟨rfl, -⟩ := Prod.mk.inj (Except.ok.inj h)
              obtain ⟨hdiffer, hbefore⟩ := ih hrest
              simp only [List.any_eq_true, not_exists, not_and, Bool.not_eq_true] at hnew
              -- the new entry is among those before the rest
              have hfirst : ∀ e ∈ rest, k.same e.1 = false :=
                fun e he => hbefore (k, v) (by simp) e he
              refine ⟨List.pairwise_cons.2 ⟨hfirst, hdiffer⟩, ?_⟩
              intro b hb
              rw [List.forall_mem_cons]
              exact ⟨hnew b hb, fun e he => hbefore b (by simp [hb]) e he⟩

theorem ne_mapping_of_readPlain? {s : Text} {v : Value} (h : readPlain? s = some v) :
    v ≠ .mapping es := by
  rintro rfl
  unfold readPlain? at h
  split at h
  · cases h
  · split at h
    · cases h
    · split at h
      · cases h
      · cases h
      · split at h <;> cases h

/-- No scalar is read as a mapping. -/
theorem ne_mapping_of_readScalar? {tag : Option Bytes} {s : Text} {style : Style} {v : Value}
    (h : readScalar? tag s style = some v) : v ≠ .mapping es := by
  unfold readScalar? at h
  split at h
  · split at h
    · exact ne_mapping_of_readPlain? h
    · cases h
      exact nofun
  · split at h
    -- of a truth value
    · obtain ⟨b, -, rfl⟩ := Option.map_eq_some_iff.1 h
      exact nofun
    · split at h
      -- of an integer
      · split at h
        · cases h
          exact nofun
        · cases h
      · split at h
        -- of a floating point number
        · obtain ⟨n, -, rfl⟩ := Option.map_eq_some_iff.1 h
          exact nofun
        · split at h
          -- of null
          · split at h
            · cases h
              exact nofun
            · cases h
          · split at h
            · exact ne_mapping_of_readPlain? h
            · cases h
              exact nofun

/-- A value with a tag of its own is no mapping, so a mapping had none. -/
theorem eq_of_tagged {tag : Option Text} {v : Value}
    (h : (match tag with
      | some t => Value.tagged t v
      | none => v) = .mapping es) : v = .mapping es := by
  cases tag with
  | some t => cases h
  | none => exact h

/-- The keys of a mapping that was built differ pairwise. -/
theorem keysDiffer_of_build {depth : Nat} (h : build d nodes depth p = .ok (.mapping es, q)) :
    KeysDiffer es := by
  rw [build] at h
  split at h
  · cases h
  · split at h
    -- which node it is that is built, and how many aliases were followed, does not matter
    rename_i place behind _
    generalize (if behind.isSome then p.jumps + 1 else p.jumps) = jumps at h
    dsimp only at h
    split at h
    · cases h
    · split at h
      · cases h
      · split at h
        · cases h
        · rename_i v after hbuilt
          obtain ⟨rfl, -⟩ := Prod.mk.inj (Except.ok.inj h)
          split at hbuilt
          -- a scalar
          · split at hbuilt
            · rename_i hscalar
              have heq := eq_of_tagged (Prod.mk.inj (Except.ok.inj hbuilt)).1
              exact absurd heq (ne_mapping_of_readScalar? hscalar)
            · cases hbuilt
          -- a sequence
          · split at hbuilt
            · cases hbuilt
            · split at hbuilt
              · cases eq_of_tagged (Prod.mk.inj (Except.ok.inj hbuilt)).1
              · cases hbuilt
          -- a mapping
          · split at hbuilt
            · cases hbuilt
            · split at hbuilt
              · rename_i hentries
                have heq := eq_of_tagged (Prod.mk.inj (Except.ok.inj hbuilt)).1
                obtain rfl := Value.mapping.inj heq
                exact (keysDiffer_of_buildEntries hentries).1
              · cases hbuilt
          · cases hbuilt

/-- A document whose mapping has a key twice is not read. -/
theorem keysDiffer_of_load {s : Text} (h : load s = .ok (.mapping es)) : KeysDiffer es := by
  unfold load at h
  dsimp only at h
  split at h
  · cases h
  · cases h
  · rename_i v _ hbuild
    split at h
    · cases h
    · split at h
      · cases h
      · obtain rfl := Except.ok.inj h
        exact keysDiffer_of_build hbuild

end Yaml

end SecretWeave
