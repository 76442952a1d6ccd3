import ManagementModel.Text.Blank
import Mathlib.Data.List.DropRight

/-!
# ManagementModel — blanks around a text

Trimming cuts a text down to what stands between its first and its last visible character. A text
that has no blank at either end is `Unpadded`; trimming yields such texts and leaves them alone.

Main results:

* `unpadded_trimChars` — what is trimmed has no blanks at its ends.
* `trimChars_eq_self_iff` — a text is trimmed already exactly if it has none.
* `trimChars_append` — blanks around a text do not change what it is trimmed to.
-/

namespace ManagementModel.Text

/-- No blank stands at either end. -/
structure Unpadded (s : List Char) : Prop where
  head : ∀ c ∈ s.head?, isBlankChar c = false
  last : ∀ c ∈ s.getLast?, isBlankChar c = false

/-- What is not blank has a visible character. -/
theorem isBlank_eq_false_iff {s : String} :
    isBlank s = false ↔ ∃ c ∈ s.toList, isBlankChar c = false := by
  unfold isBlank
  rw [List.all_eq_false]
  simp only [Bool.not_eq_true]

theorem trimChars_eq (s : List Char) :
    trimChars s = (s.dropWhile isBlankChar).rdropWhile isBlankChar :=
  rfl

/-- A text without blanks at its ends is left alone. -/
theorem trimChars_eq_self {s : List Char} (h : Unpadded s) : trimChars s = s := by
  have hhead : s.dropWhile isBlankChar = s := by
    cases s with
    | nil => rfl
    | cons c rest => exact List.dropWhile_cons_of_neg (by simp [h.head c rfl])
  have hlast : s.rdropWhile isBlankChar = s := by
    rw [List.rdropWhile_eq_self_iff]
    intro hne
    rw [h.last _ (List.getLast?_eq_some_getLast hne)]
    exact Bool.false_ne_true
  rw [trimChars_eq, hhead, hlast]

/-- The first visible character is first in what is trimmed, unless nothing is left. -/
theorem unpadded_trimChars (s : List Char) : Unpadded (trimChars s) := by
  rw [trimChars_eq]
  constructor
  · intro c hc
    -- cutting blanks off the end leaves the beginning as it is
    obtain ⟨cut, hcut⟩ := List.rdropWhile_prefix isBlankChar (s.dropWhile isBlankChar)
    have hhead : (s.dropWhile isBlankChar).head? = some c := by
      rw [← hcut, List.head?_append_of_ne_nil]
      · exact hc
      · intro hnil
        rw [hnil] at hc
        cases hc
    have hnot := List.head?_dropWhile_not isBlankChar s
    rw [hhead] at hnot
    simpa using hnot
  · intro c hc
    -- a last character that is left is none of those that were cut off
    have hne : (s.dropWhile isBlankChar).rdropWhile isBlankChar ≠ [] := by
      intro hnil
      rw [hnil] at hc
      cases hc
    have hlast := List.rdropWhile_last_not isBlankChar (s.dropWhile isBlankChar) hne
    rw [List.getLast?_eq_some_getLast hne] at hc
    rw [← Option.some.inj hc]
    simpa using hlast

/-- Exactly the texts without blanks at their ends are left alone. -/
theorem trimChars_eq_self_iff {s : List Char} : trimChars s = s ↔ Unpadded s := by
  constructor
  · intro h
    rw [← h]
    exact unpadded_trimChars s
  · exact trimChars_eq_self

/-- A visible character is not trimmed away. -/
theorem trimChars_ne_nil {s : List Char} (h : ∃ c ∈ s, isBlankChar c = false) :
    trimChars s ≠ [] := by
  obtain ⟨c, hc, hvisible⟩ := h
  intro hnil
  -- nothing is left only if all characters are blank
  rw [trimChars_eq, List.rdropWhile_eq_nil_iff, ← List.dropWhile_eq_nil_iff,
    List.dropWhile_idempotent, List.dropWhile_eq_nil_iff] at hnil
  rw [hnil c hc] at hvisible
  cases hvisible

theorem mem_of_mem_trimChars {s : List Char} {c : Char} (h : c ∈ trimChars s) : c ∈ s := by
  rw [trimChars_eq] at h
  have hmid : c ∈ s.dropWhile isBlankChar := (List.rdropWhile_prefix isBlankChar _).subset h
  exact (List.dropWhile_suffix isBlankChar).subset hmid

/-- Blanks in front and behind do not count. -/
theorem trimChars_append {before after : List Char} (hb : ∀ c ∈ before, isBlankChar c = true)
    (ha : ∀ c ∈ after, isBlankChar c = true) (s : List Char) :
    trimChars (before ++ s ++ after) = trimChars s := by
  rw [trimChars_eq, trimChars_eq, List.append_assoc, List.dropWhile_append_of_pos hb,
    List.dropWhile_append]
  split
  · -- all of the text is blank
    next hempty =>
    rw [List.isEmpty_iff] at hempty
    rw [hempty, List.dropWhile_eq_nil_iff.mpr ha]
  · rw [List.rdropWhile, List.reverse_append, List.dropWhile_append_of_pos]
    · rfl
    · exact fun c hc => ha c (List.mem_reverse.mp hc)

end ManagementModel.Text
