import ManagementModel.Files.Tree
import ManagementModel.Proofs.Sequence

/-!
# ManagementModel — what was written is read

A file is written at the place that its path leads to, and the path leads there still: no name on
the way is that of the file, since a path leads through directories alone, and all other entries are
as before.

Main results:

* `descend_put` — the ways through directories are kept if something else is replaced.
* `read_write` — a file that was written is read.
-/

namespace ManagementModel.Files.Tree

variable {t t' : Tree} {loc other here there : Location} {e : Entry} {p : Path} {data : List UInt8}

/-! ## Entries -/

@[simp] theorem entry?_put_self (h : loc ≠ []) : entry? (t.put loc e) loc = some e := by
  unfold entry? put
  rw [List.isEmpty_eq_false_iff.mpr h, List.lookup_cons_self]
  rfl

/-- Taking out the entries of one location does not change what is found at another. -/
theorem lookup_filter_ne (h : other ≠ loc) (entries : List (Location × Entry)) :
    (entries.filter (·.1 != loc)).lookup other = entries.lookup other := by
  induction entries with
  | nil => rfl
  | cons p rest ih =>
    by_cases hp : p.1 = loc
    · have hother : (other == p.1) = false := by rw [hp]; exact beq_false_of_ne h
      rw [List.filter_cons_of_neg (by simp [hp]), ih, List.lookup_cons, hother]
    · rw [List.filter_cons_of_pos (by simp [hp]), List.lookup_cons, List.lookup_cons, ih]

theorem entry?_put_of_ne (h : other ≠ loc) : entry? (t.put loc e) other = t.entry? other := by
  have hother : (other == loc) = false := beq_false_of_ne h
  unfold entry? put erase
  rw [List.lookup_cons, hother, lookup_filter_ne h]

/-! ## Directories -/

/-- A name is looked up in a directory if it is not too long. -/
theorem find_eq_ok_iff {name : Name} {found : Option Entry} : t.find here name = .ok found ↔
    name.length ≤ maxName ∧ t.entry? (here ++ [name]) = found := by
  unfold find
  split_ifs with hlong
  · exact iff_of_false nofun fun h => absurd h.1 (Nat.not_le.mpr hlong)
  · rw [Except.ok.injEq, and_iff_right (Nat.not_lt.mp hlong)]

/-- Replacing something that is no directory leaves the ways through directories as they are. -/
theorem descend_put {names : List Name} (hloc : t.entry? loc ≠ some .directory)
    (h : t.descend here names = .ok there) : (t.put loc e).descend here names = .ok there := by
  induction names generalizing here with
  | nil => exact h
  | cons name rest ih =>
    unfold descend at h ⊢
    split_ifs at h ⊢
    · exact ih h
    · exact ih h
    · split at h
      · cases h
      · cases h
      · cases h
      · next hfind =>
        obtain ⟨hname, hentry⟩ := find_eq_ok_iff.mp hfind
        -- a directory stands here, so this is not what was replaced
        have hne : here ++ [name] ≠ loc := fun heq => hloc (heq ▸ hentry)
        have hkept : (t.put loc e).find here name = .ok (some .directory) :=
          find_eq_ok_iff.mpr ⟨hname, (entry?_put_of_ne hne).trans hentry⟩
        rw [hkept]
        exact ih h

/-- A path still leads to its place when something that is no directory is replaced. -/
theorem place_put {q : Location × Option Name} (hloc : t.entry? loc ≠ some .directory)
    (h : t.place p = .ok q) : (t.put loc e).place p = .ok q := by
  -- only the directories on the way depend on the tree
  unfold place at h ⊢
  obtain ⟨u, hcheck, h⟩ := bind_eq_ok_iff.mp h
  refine bind_eq_ok_iff.mpr ⟨u, hcheck, ?_⟩
  split at h
  · exact h
  · obtain ⟨here, hdescend, h⟩ := bind_eq_ok_iff.mp h
    exact bind_eq_ok_iff.mpr ⟨here, descend_put hloc hdescend, h⟩

/-! ## Files -/

/-- A file that is written replaces what is no directory. -/
theorem exists_of_write (h : t.write p data = .ok t') : ∃ here name,
    t.place p = .ok (here, some name) ∧ p.endsInSlash = false ∧ name.length ≤ maxName ∧
      t.entry? (here ++ [name]) ≠ some .directory ∧ t' = t.put (here ++ [name]) (.file data) := by
  unfold write at h
  obtain ⟨⟨here, last⟩, hplace, h⟩ := bind_eq_ok_iff.mp h
  cases last with
  | none => cases h
  | some name =>
    -- a name with a slash behind it, and a directory of that name, are refused
    dsimp only at h
    split_ifs at h with hslash
    · cases h
    · obtain ⟨found, hfind, h⟩ := bind_eq_ok_iff.mp h
      obtain ⟨hname, hentry⟩ := find_eq_ok_iff.mp hfind
      split at h
      · cases h
      · next hfound =>
        rw [← hentry] at hfound
        exact ⟨here, name, hplace, Bool.of_not_eq_true hslash, hname, hfound,
          (Except.ok.inj h).symm⟩

/-- The bytes that were written under a path are read there. -/
theorem read_write (h : t.write p data = .ok t') : t'.read p = .ok data := by
  obtain ⟨here, name, hplace, hslash, hname, hentry, rfl⟩ := exists_of_write h
  -- the path leads to the name still, and the file is there
  have hfind : (t.put (here ++ [name]) (.file data)).find here name = .ok (some (.file data)) :=
    find_eq_ok_iff.mpr ⟨hname, entry?_put_self (List.concat_ne_nil name here)⟩
  unfold read
  refine bind_eq_ok_iff.mpr ⟨_, place_put hentry hplace, bind_eq_ok_iff.mpr ⟨_, hfind, ?_⟩⟩
  show (if p.endsInSlash = true then _ else _) = _
  rw [hslash]
  rfl

end ManagementModel.Files.Tree
