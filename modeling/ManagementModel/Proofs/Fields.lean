import ManagementModel.Fields
import Mathlib.Algebra.GroupWithZero.Nat
import Mathlib.Data.List.Induction

/-!
# ManagementModel — writing pairs into fields

Pairs that arrive one after the other may repeat a name. A record that takes them all has each name
at the position of its first pair and with the value of its last one. `Merges` says so without
regard to how the record is built; writing the pairs one by one is shown to do just that.

Main results:

* `merges_iff` — the fields that pairs amount to are those of `ofList`.
* `ofList_eq_self` — pairs without a repeated name are their own fields.
* `sum_ofList_le` — no measure of the parts grows when pairs are merged.
-/

namespace ManagementModel.Fields

variable {α : Type}

/-- What pairs amount to: a name that comes again keeps its first position and takes the last
value. -/
structure Merges (pairs fields : Fields α) : Prop where
  names_eq : names fields = (names pairs).eraseDups
  get?_eq : ∀ name, get? name fields = get? name pairs.reverse

/-! ## One more pair -/

/-- One more pair at the end is written last. -/
@[simp] theorem ofList_append_singleton (pairs : Fields α) (p : String × α) :
    ofList (pairs ++ [p]) = insert p.1 p.2 (ofList pairs) := by
  rw [ofList, List.foldl_append]
  rfl

/-- Writing leaves the order of the names as it is, and puts a new name at the end. -/
theorem names_insert (name : String) (value : α) (fields : Fields α) :
    names (insert name value fields) =
      if name ∈ names fields then names fields else names fields ++ [name] := by
  induction fields with
  | nil => simp [insert, names]
  | cons p rest ih => grind

/-- Changing a value writes what it is changed to. -/
theorem alter_eq_insert (name : String) (start : α) (f : α → α) (fields : Fields α) :
    alter name start f fields = insert name (f ((get? name fields).getD start)) fields := by
  induction fields with
  | nil => rfl
  | cons p rest ih =>
    obtain ⟨n, v⟩ := p
    rw [alter, insert, get?, ih]
    split <;> rfl

/-- A pair with a new name goes to the end. -/
theorem insert_eq_append {name : String} {fields : Fields α} (h : name ∉ names fields)
    (value : α) : insert name value fields = fields ++ [(name, value)] := by
  induction fields with
  | nil => rfl
  | cons p rest ih =>
    simp only [names, List.map_cons, List.mem_cons, not_or] at h
    rw [insert, if_neg (Ne.symm h.1), ih h.2]
    rfl

/-- Writing brings in no pair but the one that is written. -/
theorem mem_insert {name : String} {value : α} {fields : Fields α} {p : String × α}
    (h : p ∈ insert name value fields) : p = (name, value) ∨ p ∈ fields := by
  induction fields with
  | nil => exact .inl (List.mem_singleton.mp h)
  | cons q rest ih => grind

/-- Writing a pair adds at most what the pair itself measures. -/
theorem sum_insert_le (f : String × α → Nat) (name : String) (value : α) (fields : Fields α) :
    ((insert name value fields).map f).sum ≤ (fields.map f).sum + f (name, value) := by
  induction fields with
  | nil => simp [insert]
  | cons q rest ih =>
    obtain ⟨n, v⟩ := q
    rw [insert]
    split
    · -- the value of the name is replaced
      next hn =>
      subst hn
      simp only [List.map_cons, List.sum_cons]
      omega
    · -- the pair goes further back
      simp only [List.map_cons, List.sum_cons]
      omega

/-! ## All pairs -/

/-- Pairs that were written one by one have distinct names. -/
theorem distinct_ofList (pairs : Fields α) : Distinct (ofList pairs) := by
  induction pairs using List.reverseRecOn with
  | nil => exact List.nodup_nil
  | append_singleton rest p ih =>
    rw [ofList_append_singleton]
    exact nodup_names_insert p.1 p.2 ih

/-- Every field is one of the pairs that were written. -/
theorem mem_of_mem_ofList {pairs : Fields α} {p : String × α} (h : p ∈ ofList pairs) :
    p ∈ pairs := by
  induction pairs using List.reverseRecOn with
  | nil => exact h
  | append_singleton rest q ih =>
    rw [ofList_append_singleton] at h
    -- a field is the last pair or was a field before it
    rcases mem_insert h with rfl | h'
    · exact List.mem_append_right _ (List.mem_singleton.mpr rfl)
    · exact List.mem_append_left _ (ih h')

/-- No measure of the pairs grows when they are merged. -/
theorem sum_ofList_le (f : String × α → Nat) (pairs : Fields α) :
    ((ofList pairs).map f).sum ≤ (pairs.map f).sum := by
  induction pairs using List.reverseRecOn with
  | nil => exact Nat.le_refl _
  | append_singleton rest p ih =>
    obtain ⟨n, v⟩ := p
    -- writing a pair adds at most what the pair itself measures
    have hp := sum_insert_le f n v (ofList rest)
    rw [ofList_append_singleton, List.map_append, List.sum_append]
    simp only [List.map_cons, List.map_nil, List.sum_singleton]
    omega

/-- There are at most as many fields as there are pairs. -/
theorem length_ofList_le (pairs : Fields α) : (ofList pairs).length ≤ pairs.length := by
  have h := sum_ofList_le (fun _ => 1) pairs
  simpa [List.map_const', List.sum_replicate_nat] using h

/-- Where no name comes again, none stands in front of itself. -/
theorem not_mem_names_of_distinct {front back : Fields α} {p : String × α}
    (h : Distinct (front ++ p :: back)) : p.1 ∉ names front := by
  rw [Distinct, names, List.map_append, List.nodup_append] at h
  exact fun hmem => h.2.2 _ hmem p.1 (by simp) rfl

/-- Pairs without a repeated name are their own fields. -/
theorem ofList_eq_self {pairs : Fields α} (h : Distinct pairs) : ofList pairs = pairs := by
  induction pairs using List.reverseRecOn with
  | nil => rfl
  | append_singleton rest p ih =>
    -- a new name goes to the end
    have hnot := not_mem_names_of_distinct h
    rw [Distinct, names, List.map_append, List.nodup_append] at h
    rw [ofList_append_singleton, ih h.1, insert_eq_append hnot]

/-! ## Merging -/

theorem get?_eq_none {name : String} {fields : Fields α} (h : name ∉ names fields) :
    get? name fields = none := by
  induction fields with
  | nil => rfl
  | cons p rest ih => grind

theorem mem_of_get? {name : String} {value : α} {fields : Fields α}
    (h : get? name fields = some value) : (name, value) ∈ fields := by
  induction fields with
  | nil => cases h
  | cons p rest ih => grind

/-- What stands in front is found first. -/
@[simp] theorem get?_append (name : String) (front back : Fields α) :
    get? name (front ++ back) = (get? name front).or (get? name back) := by
  induction front with
  | nil => rfl
  | cons p rest ih =>
    rw [List.cons_append, get?, get?, ih]
    -- the first pair has the name, or the search goes on behind it
    split <;> rfl

/-- Leaving pairs with other names out does not change what is found. -/
theorem get?_filter {name : String} {keep : String × α → Bool} {fields : Fields α}
    (h : ∀ p ∈ fields, p.1 = name → keep p = true) :
    get? name (fields.filter keep) = get? name fields := by
  induction fields with
  | nil => rfl
  | cons p rest ih =>
    obtain ⟨hp, hrest⟩ := List.forall_mem_cons.mp h
    rw [List.filter_cons, get?]
    by_cases hname : p.1 = name
    · rw [if_pos (hp hname), get?, if_pos hname, if_pos hname]
    · -- kept or not, this pair is passed over
      rw [if_neg hname, ← ih hrest]
      split
      · rw [get?, if_neg hname]
      · rfl

/-- Nothing is found under a name that is not there, from the end either. -/
theorem get?_reverse_eq_none {name : String} {fields : Fields α} (h : name ∉ names fields) :
    get? name fields.reverse = none := by
  refine get?_eq_none fun hmem => h ?_
  rwa [names, List.map_reverse, List.mem_reverse] at hmem

/-- The value that a name was given last. -/
theorem get?_reverse_of_last {name : String} {value : α} {before after : Fields α}
    (h : name ∉ names after) :
    get? name (before ++ (name, value) :: after).reverse = some value := by
  have hlast : get? name [(name, value)] = some value := if_pos rfl
  rw [List.reverse_append, List.reverse_cons, get?_append, get?_append, get?_reverse_eq_none h,
    hlast]
  rfl

/-- Fields are still found, and have the same order, when their values are changed. -/
@[simp] theorem names_map {β : Type} (f : α → β) (fields : Fields α) :
    names (fields.map fun p => (p.1, f p.2)) = names fields := by
  rw [names, List.map_map]
  rfl

/-- What is found in changed values is what was found, changed. -/
@[simp] theorem get?_map {β : Type} (f : α → β) (name : String) (fields : Fields α) :
    get? name (fields.map fun p => (p.1, f p.2)) = (get? name fields).map f := by
  induction fields with
  | nil => rfl
  | cons p rest ih =>
    rw [List.map_cons, get?, get?, ih]
    split <;> rfl

/-- Distinct names find all values. -/
theorem get?_of_mem {fields : Fields α} (hd : Distinct fields) {p : String × α} (hp : p ∈ fields) :
    get? p.1 fields = some p.2 := by
  induction fields with
  | nil => cases hp
  | cons q rest ih =>
    rw [Distinct, names, List.map_cons, List.nodup_cons] at hd
    rcases List.mem_cons.mp hp with rfl | hp
    · rw [get?, if_pos rfl]
    · -- the first name is another one, since it does not come again
      have hne : q.1 ≠ p.1 := fun h => hd.1 (h ▸ List.mem_map_of_mem hp)
      rw [get?, if_neg hne, ih hd.2 hp]

/-- The names are those under which something is found. -/
theorem mem_names_iff {name : String} {fields : Fields α} :
    name ∈ names fields ↔ ∃ value, get? name fields = some value := by
  induction fields with
  | nil => simp [names, get?]
  | cons p rest ih =>
    have hcons : name ∈ names (p :: rest) ↔ name = p.1 ∨ name ∈ names rest := List.mem_cons
    rw [hcons, get?, ih]
    by_cases h : p.1 = name
    · simp [h]
    · simp [h, Ne.symm h]

/-- Fields with distinct names are their names with what is found there. -/
theorem map_names_get? {fields : Fields α} (hd : Distinct fields) {start : α} :
    ((names fields).map fun name => (name, (get? name fields).getD start)) = fields := by
  unfold names
  rw [List.map_map]
  refine (List.map_congr_left fun p hp => ?_).trans (List.map_id fields)
  show (p.1, (get? p.1 fields).getD start) = p
  -- with distinct names, each finds the value beside it
  rw [get?_of_mem hd hp]
  rfl

/-- Fields with distinct names are known by the order of their names and their values. -/
theorem eq_of_names_eq {f g : Fields α} (hd : Distinct f) (hn : names f = names g)
    (hv : ∀ name, get? name f = get? name g) : f = g := by
  induction f generalizing g with
  | nil => exact (List.map_eq_nil_iff.mp hn.symm).symm
  | cons p rest ih =>
    obtain ⟨q, g, rfl⟩ : ∃ q g', g = q :: g' := by
      cases g with
      | nil => simp [names] at hn
      | cons q g => exact ⟨q, g, rfl⟩
    rw [Distinct, names, List.map_cons, List.nodup_cons] at hd
    simp only [names, List.map_cons, List.cons.injEq] at hn
    -- both begin with the same name, and with its value
    have hval := hv p.1
    simp only [get?, hn.1, if_true, Option.some.injEq] at hval
    have hhead : p = q := Prod.ext hn.1 hval
    subst hhead
    have hnone : get? p.1 rest = get? p.1 g := by
      have hg : p.1 ∉ names g := by
        rw [names, ← hn.2]
        exact hd.1
      rw [get?_eq_none hd.1, get?_eq_none hg]
    -- the first name stands in neither rest, so its value says nothing about them
    have htail : ∀ name, get? name rest = get? name g := by
      intro name
      by_cases h : p.1 = name
      · exact h ▸ hnone
      · have := hv name
        simpa only [get?, h, if_false] using this
    rw [ih hd.2 hn.2 htail]

/-- Pairs that are written one by one merge as they should. -/
theorem merges_ofList (pairs : Fields α) : Merges pairs (ofList pairs) := by
  induction pairs using List.reverseRecOn with
  | nil => exact ⟨rfl, fun _ => rfl⟩
  | append_singleton rest p ih =>
    rw [ofList_append_singleton]
    refine ⟨?_, ?_⟩
    · -- a name stays where it is, a new one goes to the end
      have hmem : p.1 ∈ names (ofList rest) ↔ p.1 ∈ names rest := by
        rw [ih.names_eq, List.mem_eraseDups]
      have happ : names (rest ++ [p]) = names rest ++ [p.1] := by simp [names]
      rw [names_insert, happ, List.eraseDups_append, ← ih.names_eq]
      by_cases h : p.1 ∈ names rest
      · rw [if_pos (hmem.mpr h)]
        simp [List.removeAll, h]
      · rw [if_neg (mt hmem.mp h)]
        simp [List.removeAll, h, List.eraseDups_cons]
    · -- the last value is found first from the end
      intro name
      rw [get?_insert, ih.get?_eq, List.reverse_append]
      rfl

/-- Merging is what writing the pairs one by one does. -/
theorem merges_iff {pairs fields : Fields α} : Merges pairs fields ↔ fields = ofList pairs := by
  constructor
  · intro h
    have h' := merges_ofList pairs
    refine (eq_of_names_eq (distinct_ofList pairs) ?_ ?_).symm
    · rw [h'.names_eq, h.names_eq]
    · intro name
      rw [h'.get?_eq, h.get?_eq]
  · rintro rfl
    exact merges_ofList pairs

end ManagementModel.Fields
