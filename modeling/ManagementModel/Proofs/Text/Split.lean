import Mathlib.Data.List.Basic

/-!
# ManagementModel — pieces between separators

Pieces that are written one after the other, each behind a separator, are found again by splitting
at the separator, as long as none of them holds it. A piece is found in two halves around the first
occurrence of a separator in it.

Main results:

* `splitOn_append_behind` — pieces behind separators are found again.
* `takeWhile_append_of_head`, `dropWhile_append_of_head` — what stands before the first character
  that ends something, and what stands from there on.
* `takeWhile_append_cons`, `dropWhile_append_cons` — the halves around a first separator.
-/

namespace ManagementModel.Text

variable {sep : Char}

/-- Some pieces, each behind a separator. -/
def behind (sep : Char) (pieces : List (List Char)) : List Char :=
  pieces.flatMap fun s => sep :: s

/-- Splitting at the separator finds the pieces that were written behind it. -/
theorem splitOn_append_behind {s : List Char} {pieces : List (List Char)} (hs : sep ∉ s)
    (h : ∀ s ∈ pieces, sep ∉ s) : (s ++ behind sep pieces).splitOn sep = s :: pieces := by
  induction pieces generalizing s with
  | nil =>
    rw [behind, List.flatMap_nil, List.append_nil]
    exact List.splitOn_eq_singleton hs
  | cons next rest ih =>
    obtain ⟨hnext, hrest⟩ := List.forall_mem_cons.mp h
    -- the next piece begins behind the first separator
    have hcons : behind sep (next :: rest) = sep :: (next ++ behind sep rest) := rfl
    rw [hcons, List.splitOn_append_cons_self_of_not_mem hs, ih hnext hrest]

/-! ## Up to a first character -/

section

variable {p : Char → Bool} {before after : List Char} (hbefore : ∀ c ∈ before, p c = true)
  (hafter : ∀ c ∈ after.head?, p c = false)

include hbefore hafter

/-- What is taken is all that stands before the first character that ends it. -/
theorem takeWhile_append_of_head : (before ++ after).takeWhile p = before := by
  rw [List.takeWhile_append_of_pos hbefore]
  cases after with
  | nil => rw [List.takeWhile_nil, List.append_nil]
  | cons c rest => rw [List.takeWhile_cons_of_neg (by simp [hafter c rfl]), List.append_nil]

/-- What is left begins with the first character that ends what is dropped. -/
theorem dropWhile_append_of_head : (before ++ after).dropWhile p = after := by
  rw [List.dropWhile_append_of_pos hbefore]
  cases after with
  | nil => rfl
  | cons c rest => exact List.dropWhile_cons_of_neg (by simp [hafter c rfl])

end

section

variable {before : List Char} (after : List Char) (h : sep ∉ before)

include h

/-- What stands before the first separator. -/
theorem takeWhile_append_cons : (before ++ sep :: after).takeWhile (· != sep) = before :=
  takeWhile_append_of_head (fun _ hc => bne_iff_ne.mpr (ne_of_mem_of_not_mem hc h)) (by simp)

/-- The first separator and what stands behind it. -/
theorem dropWhile_append_cons : (before ++ sep :: after).dropWhile (· != sep) = sep :: after :=
  dropWhile_append_of_head (fun _ hc => bne_iff_ne.mpr (ne_of_mem_of_not_mem hc h)) (by simp)

end

end ManagementModel.Text
