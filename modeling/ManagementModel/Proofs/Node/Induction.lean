import ManagementModel.Node.Basic
import Mathlib.Data.List.Basic

/-!
# ManagementModel — induction on trees

A tree holds lists of trees, so the induction that its definition gives has a motive for each of
these lists. Here the parts of a container come with the hypothesis for each of them instead, and
what is defined along the lists is stated for their members.

What a tree holds at any depth are the nodes within it: the tree itself, and the nodes within the
items of a list, the values of an object and the value of a property. A tree has a property
throughout if every node within it has the property. For a container this is a condition on the
container alone and one on each of its parts.

Main results:

* `induct` — a property of all values without parts that passes from the parts of a container to
  the container holds of every tree.
* `nesting_list_iff`, `nesting_object_iff` — a container within a limit by its parts.
* `wellFormed_list_iff`, `wellFormed_object_iff` — well-formedness of a container by its parts.
* `throughout_scalar_iff`, `throughout_list_iff`, `throughout_object_iff`,
  `throughout_property_iff` — throughout a tree, by its parts.
-/

namespace ManagementModel.Node

/-- Induction on a tree. -/
@[elab_as_elim]
theorem induct {P : Node → Prop} (scalar : ∀ n : Node, n.kind.isContainer = false → P n)
    (list : ∀ items, (∀ item ∈ items, P item) → P (list items))
    (object : ∀ fields, (∀ p ∈ fields, P p.2) → P (object fields))
    (property : ∀ name value, P value → P (property name value)) (n : Node) : P n := by
  refine @Node.rec P (fun items => ∀ item ∈ items, P item) (fun fields => ∀ p ∈ fields, P p.2)
    (fun p => P p.2) ?_ ?_ ?_ ?_ ?_ ?_ ?_ ?_ ?_ list object property ?_ ?_ ?_ ?_ ?_ n
  -- the values without parts
  · exact scalar _ rfl
  · exact fun _ => scalar _ rfl
  · exact fun _ => scalar _ rfl
  · exact fun _ => scalar _ rfl
  · exact fun _ => scalar _ rfl
  · exact fun _ => scalar _ rfl
  · exact fun _ => scalar _ rfl
  · exact fun _ => scalar _ rfl
  · exact fun _ => scalar _ rfl
  -- the lists of parts
  · exact fun _ h => nomatch h
  · exact fun _ _ hp hps => List.forall_mem_cons.mpr ⟨hp, hps⟩
  · exact fun _ h => nomatch h
  · exact fun _ _ hp hps => List.forall_mem_cons.mpr ⟨hp, hps⟩
  · exact fun _ _ hp => hp

/-! ## Nesting -/

/-- A value without parts opens no container. -/
theorem nesting_eq_zero {n : Node} (h : n.kind.isContainer = false) : n.nesting = 0 := by
  cases n with
  | list | object | property => cases h
  | _ => rw [nesting] <;> simp

section

variable {d k limit : Nat} {items : List Node} {fields : Fields Node}

/-- Items stay within a limit if each of them does. -/
@[simp] theorem nestingItems_le_iff : d + nestingItems items ≤ limit ↔
    d ≤ limit ∧ ∀ item ∈ items, d + item.nesting ≤ limit := by
  induction items with
  | nil => simp [nestingItems]
  | cons item rest ih =>
    -- the maximum is within the limit if both of its parts are
    rw [nestingItems, List.forall_mem_cons, and_left_comm, ← ih]
    omega

/-- Fields stay within a limit if each value does. -/
@[simp] theorem nestingFields_le_iff : d + nestingFields fields ≤ limit ↔
    d ≤ limit ∧ ∀ p ∈ fields, d + p.2.nesting ≤ limit := by
  induction fields with
  | nil => simp [nestingFields]
  | cons p rest ih =>
    rw [nestingFields, List.forall_mem_cons, and_left_comm, ← ih]
    omega

/-- A list at depth `d` stays within a limit if it may stand there and its items, one level deeper,
stay within the limit. -/
theorem nesting_list_iff : d + (list items).nesting ≤ limit ↔
    d < limit ∧ ∀ item ∈ items, d + 1 + item.nesting ≤ limit := by
  rw [nesting, Nat.add_comm (nestingItems items), ← Nat.add_assoc, nestingItems_le_iff]
  exact Iff.rfl

/-- An object stays within a limit if it may stand where it does, and its values one level deeper.
-/
theorem nesting_object_iff : d + (object fields).nesting ≤ limit ↔
    d < limit ∧ ∀ p ∈ fields, d + 1 + p.2.nesting ≤ limit := by
  rw [nesting, Nat.add_comm (nestingFields fields), ← Nat.add_assoc, nestingFields_le_iff]
  exact Iff.rfl

/-- A property stays within a limit if it may stand where it does, and its value one level deeper.
-/
theorem nesting_property_iff {name : String} {value : Node} :
    d + (property name value).nesting ≤ limit ↔ d < limit ∧ d + 1 + value.nesting ≤ limit := by
  rw [nesting]
  omega

/-- A list nests deeper than its limit if one of its items does. -/
theorem lt_nesting_list_iff :
    k + 1 < (list items).nesting ↔ ∃ item ∈ items, k < item.nesting := by
  rw [nesting, Nat.add_lt_add_iff_right]
  induction items with
  | nil => simp [nestingItems]
  | cons item rest ih =>
    -- the maximum passes the limit if one of its two parts does
    rw [nestingItems, List.exists_mem_cons_iff, ← ih]
    omega

/-- An object nests deeper than its limit if one of its values does. -/
theorem lt_nesting_object_iff :
    k + 1 < (object fields).nesting ↔ ∃ p ∈ fields, k < p.2.nesting := by
  rw [nesting, Nat.add_lt_add_iff_right]
  induction fields with
  | nil => simp [nestingFields]
  | cons p rest ih =>
    rw [nestingFields, List.exists_mem_cons_iff, ← ih]
    omega

end

/-! ## Well-formed trees -/

/-- A value without parts is well formed. -/
theorem wellFormed_of_not_container {n : Node} (h : n.kind.isContainer = false) :
    n.WellFormed := by
  cases n with
  | list | object | property => cases h
  | _ => rw [WellFormed] <;> simp

@[simp] theorem wellFormedItems_iff {items : List Node} :
    WellFormedItems items ↔ ∀ item ∈ items, item.WellFormed := by
  induction items with
  | nil => simp [WellFormedItems]
  | cons item rest ih => rw [WellFormedItems, ih, List.forall_mem_cons]

@[simp] theorem wellFormedFields_iff {fields : Fields Node} :
    WellFormedFields fields ↔ ∀ p ∈ fields, p.2.WellFormed := by
  induction fields with
  | nil => simp [WellFormedFields]
  | cons p rest ih => rw [WellFormedFields, ih, List.forall_mem_cons]

@[simp] theorem wellFormed_list_iff {items : List Node} :
    (list items).WellFormed ↔ ∀ item ∈ items, item.WellFormed := by
  rw [WellFormed, wellFormedItems_iff]

/-- An object is well formed if no name stands twice and its values are well formed. -/
@[simp] theorem wellFormed_object_iff {fields : Fields Node} :
    (object fields).WellFormed ↔ Fields.Distinct fields ∧ ∀ p ∈ fields, p.2.WellFormed := by
  rw [WellFormed, wellFormedFields_iff]

/-! ## The nodes within a tree -/

/-- The node `m` stands in a tree, at any depth. -/
inductive Within (m : Node) : Node → Prop
  | self : Within m m
  | item {items : List Node} {n : Node} (hn : n ∈ items) (h : Within m n) : Within m (list items)
  | field {fields : Fields Node} {p : String × Node} (hp : p ∈ fields) (h : Within m p.2) :
    Within m (object fields)
  | value {name : String} {n : Node} (h : Within m n) : Within m (property name n)

/-- All nodes within a tree have a property. -/
def Throughout (P : Node → Prop) (n : Node) : Prop := ∀ m, Within m n → P m

variable {P : Node → Prop}

theorem Throughout.self {n : Node} (h : n.Throughout P) : P n := h n .self

/-- Within a value without parts there is only the value. -/
theorem throughout_scalar_iff {n : Node} (hn : n.kind.isContainer = false) :
    n.Throughout P ↔ P n := by
  constructor
  · exact Throughout.self
  · intro h m hm
    cases hm with
    | self => exact h
    -- only a container has parts
    | item | field | value => cases hn

/-- Throughout a list means of the list and throughout its items. -/
@[simp] theorem throughout_list_iff {items : List Node} :
    (list items).Throughout P ↔ P (list items) ∧ ∀ item ∈ items, item.Throughout P := by
  constructor
  · intro h
    exact ⟨h.self, fun item hitem m hm => h m (.item hitem hm)⟩
  · rintro ⟨hself, hitems⟩ m hm
    -- a node within the list is the list or stands within an item
    cases hm with
    | self => exact hself
    | item hitem hm => exact hitems _ hitem m hm

/-- Throughout an object means of the object and throughout its values. -/
@[simp] theorem throughout_object_iff {fields : Fields Node} :
    (object fields).Throughout P ↔ P (object fields) ∧ ∀ p ∈ fields, p.2.Throughout P := by
  constructor
  · intro h
    exact ⟨h.self, fun p hp m hm => h m (.field hp hm)⟩
  · rintro ⟨hself, hfields⟩ m hm
    cases hm with
    | self => exact hself
    | field hp hm => exact hfields _ hp m hm

/-- Throughout a property means of the property and throughout its value. -/
@[simp] theorem throughout_property_iff {name : String} {value : Node} :
    (property name value).Throughout P ↔ P (property name value) ∧ value.Throughout P := by
  constructor
  · intro h
    exact ⟨h.self, fun m hm => h m (.value hm)⟩
  · rintro ⟨hself, hvalue⟩ m hm
    cases hm with
    | self => exact hself
    | value hm => exact hvalue m hm

end ManagementModel.Node
