import ManagementModel.Proofs.Json.Distinct
import ManagementModel.Proofs.Node.Json
import ManagementModel.Proofs.Sequence

/-!
# ManagementModel — trees that equal themselves

Trees are compared as numbers where they hold doubles, so a tree with a NaN in it differs from
itself. Nothing else does: an object finds each of its own fields, since no name stands twice.

A document has no NaN, and no name twice in an object once it was read. So a tree that was read from
a JSON text equals itself.

Main results:

* `same_self_iff` — a well-formed tree equals itself exactly if no NaN is in it.
* `wellFormed_of_ofJsonText`, `nanFree_of_ofJsonText` — trees that were read from texts.
-/

namespace ManagementModel.Node

/-- No NaN stands in the tree, at any depth. -/
def NaNFree (n : Node) : Prop :=
  n.Throughout fun m => ∀ bits, m = double bits → Binary64.isNaN bits = false

/-- Only a double can be a NaN. -/
theorem nanFree_scalar {n : Node} (hn : n.kind.isContainer = false) (h : n.kind ≠ .double) :
    n.NaNFree := by
  refine (throughout_scalar_iff hn).mpr ?_
  rintro bits rfl
  exact absurd rfl h

/-- A finite double is no NaN. -/
theorem nanFree_double {bits : UInt64} (h : Binary64.isFinite bits = true) :
    (double bits).NaNFree := by
  refine (throughout_scalar_iff rfl).mpr ?_
  rintro _ ⟨⟩
  exact Binary64.isNaN_eq_false h

@[simp] theorem nanFree_list_iff {items : List Node} :
    (list items).NaNFree ↔ ∀ item ∈ items, item.NaNFree := by
  unfold NaNFree
  rw [throughout_list_iff, and_iff_right nofun]

@[simp] theorem nanFree_object_iff {fields : Fields Node} :
    (object fields).NaNFree ↔ ∀ p ∈ fields, p.2.NaNFree := by
  unfold NaNFree
  rw [throughout_object_iff, and_iff_right nofun]

@[simp] theorem nanFree_property_iff {name : String} {value : Node} :
    (property name value).NaNFree ↔ value.NaNFree := by
  unfold NaNFree
  rw [throughout_property_iff, and_iff_right nofun]

/-! ## Equality -/

/-- A tree equals itself exactly if no NaN stands in it. -/
theorem same_self_iff {n : Node} (hw : n.WellFormed) : n.same n = true ↔ n.NaNFree := by
  induction n using induct with
  | scalar n hn =>
    cases n with
    | double bits =>
      -- a double equals itself as a number
      unfold NaNFree
      rw [throughout_scalar_iff rfl, same, Binary64.numEq_self_iff]
      simp
    | list | object | property => cases hn
    | _ => exact iff_of_true (by simp [same]) (nanFree_scalar rfl (by rintro ⟨⟩))
  | list items ih =>
    have hitems := wellFormed_list_iff.mp hw
    have hself := @sameItems_map_iff id items
    rw [List.map_id] at hself
    rw [nanFree_list_iff, same, hself]
    exact forall₂_congr fun item hitem => ih item hitem (hitems item hitem)
  | object fields ih =>
    obtain ⟨hdistinct, hvalues⟩ := wellFormed_object_iff.mp hw
    -- with distinct names, what is found under a name is the value beside it
    have hself := sameFields_map_iff (f := id) fun p hp => Fields.get?_of_mem hdistinct hp
    have hfields : fields.map (fun p => (p.1, id p.2)) = fields := List.map_id' fields
    rw [hfields] at hself
    rw [nanFree_object_iff, same, beq_self_eq_true, Bool.true_and, hself]
    exact forall₂_congr fun p hp => ih p hp (hvalues p hp)
  | property name value ih =>
    rw [nanFree_property_iff, same, beq_self_eq_true, Bool.true_and]
    exact ih hw

/-! ## Documents -/

section

variable {v : Json} {members : List (String × Json)} {n : Node} {text : String}

/-- A whole number is read as a value without parts. -/
theorem isContainer_ofWhole (n : Int) : (ofWhole n).kind.isContainer = false := by
  unfold ofWhole
  split
  · rfl
  · split <;> rfl

/-- Only arrays and objects are read as containers. -/
theorem isContainer_ofJson (hv : v.isScalar = true) : (ofJson v).kind.isContainer = false := by
  cases v with
  | number n =>
    cases n with
    | whole n h => exact isContainer_ofWhole n
    | real bits h => rfl
  | array | object => cases hv
  | _ => rfl

/-- What an object with a reserved name stands for is an expression or bytes. -/
theorem kind_of_ofReserved? (h : ofReserved? members = some n) :
    n.kind.isContainer = false ∧ n.kind ≠ .double := by
  rcases ofReserved?_eq_some_iff.mp h with ⟨text, -, rfl⟩ | ⟨text, data, -, -, rfl⟩
  · exact ⟨rfl, nofun⟩
  · exact ⟨rfl, nofun⟩

/-- A whole number in the range of words is read as a number. -/
theorem nanFree_ofWhole {n : Int} (h : n < 0x10000000000000000) : (ofWhole n).NaNFree := by
  unfold ofWhole
  split
  · exact nanFree_scalar rfl nofun
  · split
    · exact nanFree_scalar rfl nofun
    · -- beyond the words with a sign
      exact nanFree_double (Binary64.isFinite_ofNat (by omega))

/-- There is no NaN in a document. -/
theorem nanFree_ofJson (v : Json) : (ofJson v).NaNFree := by
  induction v using Json.induct with
  | scalar v hv =>
    cases v with
    | number n =>
      cases n with
      | whole n h => exact nanFree_ofWhole h.2
      | real bits h => exact nanFree_double h
    | array | object => cases hv
    | _ => exact nanFree_scalar rfl (by rintro ⟨⟩)
  | array items ih =>
    rw [ofJson, ofJsonItems_eq_map]
    exact nanFree_list_iff.mpr (List.forall_mem_map.mpr ih)
  | object members ih =>
    rw [ofJson, ofJsonMembers_eq_map]
    cases hreserved : ofReserved? members with
    | some n =>
      -- an object with a reserved name is read as an expression or as bytes
      obtain ⟨hscalar, hdouble⟩ := kind_of_ofReserved? hreserved
      exact nanFree_scalar hscalar hdouble
    | none => exact nanFree_object_iff.mpr (List.forall_mem_map.mpr ih)

/-- A document with distinct names is read as a tree with distinct names. -/
theorem wellFormed_ofJson (h : v.WellFormed) : (ofJson v).WellFormed := by
  induction h with
  | scalar hv => exact wellFormed_of_not_container (isContainer_ofJson hv)
  | array _ ih =>
    rw [ofJson, ofJsonItems_eq_map, wellFormed_list_iff]
    exact List.forall_mem_map.mpr ih
  | @object members hd _ ih =>
    rw [ofJson, ofJsonMembers_eq_map]
    cases hreserved : ofReserved? members with
    | some n => exact wellFormed_of_not_container (kind_of_ofReserved? hreserved).1
    | none =>
      -- reading the values leaves the names as they are
      refine wellFormed_object_iff.mpr ⟨?_, List.forall_mem_map.mpr ih⟩
      rwa [Fields.Distinct, Fields.names_map]

/-- What is read from a text is well formed. -/
theorem wellFormed_of_ofJsonText (h : ofJsonText text = .ok n) : n.WellFormed := by
  obtain ⟨v, hparse, rfl⟩ := map_eq_ok_iff.mp h
  exact wellFormed_ofJson (Json.wellFormed_of_parse hparse)

/-- What is read from a text has no NaN in it. -/
theorem nanFree_of_ofJsonText (h : ofJsonText text = .ok n) : n.NaNFree := by
  obtain ⟨v, -, rfl⟩ := map_eq_ok_iff.mp h
  exact nanFree_ofJson v

end

end ManagementModel.Node
