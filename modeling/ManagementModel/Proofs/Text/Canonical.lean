import Mathlib.Data.List.Basic
import ManagementModel.Text.Canonical

/-!
# ManagementModel — what the canonical form keeps

A character that stands for no others, is no mark, and is part of no composition is in the canonical
form of every text that it is in. Blanks and controls are such characters.

Main results:

* `mem_form` — a character that takes no part in the canonical form is kept.
* `inert_of_le_blank` — blanks and controls take no part.
-/

namespace ManagementModel.Text.Canonical

/-- A code point that is neither taken apart, nor moved, nor composed with another one. -/
structure Inert (n : Nat) : Prop where
  parts?_eq : parts? n = none
  combiningClass_eq : combiningClass n = 0
  composite?_second : ∀ first, composite? first n = none
  composite?_first : ∀ second, composite? n second = none

/-- Blanks and controls. -/
theorem inert_of_le_blank {n : Nat} (h : n ≤ 0x20) : Inert n := by
  -- the tables have no entry for such a code point
  have hpairs : ∀ row ∈ pairs, ∀ p ∈ row.2, 0x20 < p.1 := by decide +kernel
  have hparts : ∀ n < 0x21, parts? n = none := by decide +kernel
  have hclass : ∀ n < 0x21, combiningClass n = 0 := by decide +kernel
  refine ⟨hparts n (by omega), hclass n (by omega), fun first => if_pos (by omega), ?_⟩
  intro second
  -- it is no part of a syllable
  have hsyllable : syllable? n second = none := by
    rw [syllable?, if_neg (by simp; omega), if_neg (by simp; omega)]
  -- and no row of the pairs has it as the second of a pair
  have hpair : pairs.codePoint? (n, second) = none := by
    rw [Rows.codePoint?, List.findSome?_eq_none_iff]
    intro row hrow
    rw [Option.map_eq_none_iff, List.idxOf?_eq_none_iff]
    intro hmem
    have := hpairs row hrow _ hmem
    omega
  rw [composite?, hsyllable, hpair]
  exact ite_self none

variable {n : Nat} (hn : Inert n)

include hn

theorem decompose_inert (steps : Nat) : decompose steps n = [n] := by
  cases steps with
  | zero => rfl
  | succ steps => rw [decompose, hn.parts?_eq]

omit hn in
/-- Marks that are put in order go behind what is done, and none is lost. -/
theorem mem_settle {done marks : List Nat} : n ∈ settle done marks ↔ n ∈ marks ∨ n ∈ done := by
  rw [settle, List.mem_append, List.mem_reverse, sortMarks, List.mem_mergeSort, List.mem_reverse]

omit hn in
/-- Putting marks in order neither drops nor adds anything. -/
theorem mem_reorderFrom {done marks s : List Nat} :
    n ∈ reorderFrom done marks s ↔ n ∈ done ∨ n ∈ marks ∨ n ∈ s := by
  induction s generalizing done marks with
  | nil => simp [reorderFrom, mem_settle, or_comm]
  | cons m rest ih =>
    rw [reorderFrom]
    split
    · simp only [ih, List.mem_cons, mem_settle, List.not_mem_nil]
      tauto
    · simp only [ih, List.mem_cons]
      tauto

/-- What is not composed with anything stays. -/
theorem mem_composeFrom {done held s : List Nat} {starter : Nat}
    (h : n ∈ done ∨ n = starter ∨ n ∈ held ∨ n ∈ s) : n ∈ composeFrom done starter held s := by
  induction s generalizing done starter held with
  | nil =>
    simp only [composeFrom, List.mem_reverse, List.mem_append, List.mem_cons]
    simp only [List.not_mem_nil, or_false] at h
    tauto
  | cons m rest ih =>
    rw [composeFrom]
    simp only [List.mem_cons] at h
    split
    · next composite hcomposite =>
      -- neither of the two that are composed is the code point
      have hne : n ≠ starter ∧ n ≠ m := by
        constructor
        · rintro rfl
          simp [hn.composite?_first] at hcomposite
        · rintro rfl
          simp [hn.composite?_second] at hcomposite
      exact ih (by tauto)
    · split
      · refine ih ?_
        simp only [List.mem_append, List.mem_cons, List.not_mem_nil]
        tauto
      · next hmark =>
        -- a mark that is held back is not the code point, which is no mark
        have hne : n ≠ m := by
          rintro rfl
          simp [hn.combiningClass_eq] at hmark
        refine ih ?_
        simp only [List.mem_cons]
        tauto

theorem mem_compose {s : List Nat} (h : n ∈ s) : n ∈ compose s := by
  cases s with
  | nil => cases h
  | cons m rest =>
    refine mem_composeFrom hn ?_
    simpa using h

omit hn in
/-- A character that takes no part in the canonical form is kept. -/
theorem mem_form {c : Char} (hc : Inert c.toNat) {s : List Char} (h : c ∈ s) : c ∈ form s := by
  -- the three steps keep it one after the other
  have hparts : c.toNat ∈ (s.map Char.toNat).flatMap (decompose steps) := by
    refine List.mem_flatMap.mpr ⟨c.toNat, List.mem_map_of_mem h, ?_⟩
    rw [decompose_inert hc]
    exact List.mem_singleton_self _
  have hordered : c.toNat ∈ reorder ((s.map Char.toNat).flatMap (decompose steps)) :=
    mem_reorderFrom.mpr (.inr (.inr hparts))
  rw [form]
  exact List.mem_map.mpr ⟨_, mem_compose hc hordered, Char.ofNat_toNat c⟩

end ManagementModel.Text.Canonical
