import ManagementModel.Proofs.Json.RoundTrip
import ManagementModel.Proofs.Node.Json

/-!
# ManagementModel — JSON texts of trees

A tree without doubles is shown by a document that its text tells exactly: all numbers are whole,
and an object has no name twice, since the tree has none. So the text says what the document says,
in either layout, up to the depth that the reader allows. Beyond it the text is refused.

Main results:

* `exact_toJson` — documents of trees without doubles.
* `ofJsonText_of_double_free` — what is read from the text of such a tree.
-/

namespace ManagementModel.Node

/-- No double stands in the tree, at any depth. -/
def DoubleFree (n : Node) : Prop := n.Throughout fun m => m.kind ≠ .double

theorem doubleFree_scalar {n : Node} (hn : n.kind.isContainer = false) (h : n.kind ≠ .double) :
    n.DoubleFree :=
  (throughout_scalar_iff hn).mpr h

@[simp] theorem doubleFree_list_iff {items : List Node} :
    (list items).DoubleFree ↔ ∀ item ∈ items, item.DoubleFree := by
  rw [DoubleFree, throughout_list_iff, and_iff_right nofun]
  rfl

@[simp] theorem doubleFree_object_iff {fields : Fields Node} :
    (object fields).DoubleFree ↔ ∀ p ∈ fields, p.2.DoubleFree := by
  rw [DoubleFree, throughout_object_iff, and_iff_right nofun]
  rfl

@[simp] theorem doubleFree_property_iff {name : String} {value : Node} :
    (property name value).DoubleFree ↔ value.DoubleFree := by
  rw [DoubleFree, throughout_property_iff, and_iff_right nofun]
  rfl

/-! ## Documents -/

/-- A whole number is told exactly. -/
theorem exact_ofInt64 (value : Int64) : (Json.ofInt64 value).Exact :=
  .whole _

/-- An object with one member is told exactly if its value is. -/
theorem exact_single (name : String) {v : Json} (h : v.Exact) : (Json.single name v).Exact := by
  refine .object (List.pairwise_singleton _ _) ?_
  simpa using h

/-- The document of a tree without doubles is told exactly by its text. -/
theorem exact_toJson {n : Node} (hw : n.WellFormed) (hd : n.DoubleFree) : n.toJson.Exact := by
  induction n using induct with
  | scalar n hn =>
    cases n with
    | undefined => exact .null
    | boolean value => exact .bool value
    | int value => exact exact_ofInt64 _
    | long value => exact exact_ofInt64 value
    | double bits => exact absurd rfl hd.self
    | string text => exact .string text
    | expression text => exact exact_single _ (.string text)
    | bytes data => exact exact_single _ (.string _)
    | type kind => exact exact_single _ (.string _)
    | list | object | property => cases hn
  | list items ih =>
    have hitems := wellFormed_list_iff.mp hw
    have hfree := doubleFree_list_iff.mp hd
    rw [toJson, toJsonItems_eq_map]
    -- the items of the document are those of the list
    refine .array (List.forall_mem_map.mpr fun item hitem => ?_)
    exact ih item hitem (hitems item hitem) (hfree item hitem)
  | object fields ih =>
    obtain ⟨hdistinct, hvalues⟩ := wellFormed_object_iff.mp hw
    have hfree := doubleFree_object_iff.mp hd
    rw [toJson, toJsonMembers_eq_map]
    -- the document has the names of the object
    refine .object ?_ (List.forall_mem_map.mpr fun p hp => ih p hp (hvalues p hp) (hfree p hp))
    rwa [Fields.Distinct, Fields.names_map]
  | property name value ih =>
    exact exact_single name (ih hw (doubleFree_property_iff.mp hd))

/-! ## Texts -/

section

variable {spacing : Json.Spacing} (hs : spacing.Blank) {n : Node} (hw : n.WellFormed)
  (hd : n.DoubleFree)

include hs hw hd

/-- What is read from a text of a tree that is not too deep is what its document tells. -/
theorem ofJsonText_render (hfits : n.toJson.nesting ≤ Json.maxNesting) :
    ofJsonText (n.toJson.render spacing) = .ok (ofJson n.toJson) := by
  rw [ofJsonText, Json.parse_render hs (exact_toJson hw hd) hfits]
  rfl

/-- The text of a tree that is too deep is refused for its depth. -/
theorem ofJsonText_render_deep (hdeep : Json.maxNesting < n.toJson.nesting) :
    ∃ e, ofJsonText (n.toJson.render spacing) = .error e ∧ e.cause = .recursionLimit := by
  obtain ⟨e, hparse, hcause⟩ := Json.parse_render_deep hs (exact_toJson hw hd) hdeep
  exact ⟨e, by rw [ofJsonText, hparse]; rfl, hcause⟩

end

/-- Both texts of a tree without doubles, on one line or indented, are read as what its document
tells, if no more than 127 containers of the document stand within each other. If more do, the text
is refused for its depth. -/
theorem ofJsonText_of_double_free {n : Node} (hw : n.WellFormed) (hd : n.DoubleFree) {text : String}
    (htext : text = n.compactJson ∨ text = n.prettyJson) :
    (n.toJson.nesting ≤ 127 → ofJsonText text = .ok (ofJson n.toJson)) ∧
      (127 < n.toJson.nesting →
        ∃ e, ofJsonText text = .error e ∧ e.cause = .recursionLimit) := by
  obtain ⟨spacing, hs, rfl⟩ : ∃ spacing : Json.Spacing, spacing.Blank ∧
      text = n.toJson.render spacing := by
    -- the text has one of the two layouts
    rcases htext with rfl | rfl
    · exact ⟨.compact, Json.Spacing.blank_compact, rfl⟩
    · exact ⟨.pretty, Json.Spacing.blank_pretty, rfl⟩
  exact ⟨ofJsonText_render hs hw hd, ofJsonText_render_deep hs hw hd⟩

/-- A list that holds a list, and so on. -/
def nestedLists : (depth : Nat) → Node
  | 0 => undefined
  | depth + 1 => list [nestedLists depth]

/-- Lists within each other are well formed, without doubles, and as deep as is asked for. -/
theorem nestedLists_spec (depth : Nat) : (nestedLists depth).WellFormed ∧
    (nestedLists depth).DoubleFree ∧ (nestedLists depth).toJson.nesting = depth := by
  induction depth with
  | zero =>
    exact ⟨wellFormed_of_not_container rfl, doubleFree_scalar rfl nofun, rfl⟩
  | succ depth ih =>
    obtain ⟨hw, hd, hnesting⟩ := ih
    refine ⟨wellFormed_list_iff.mpr (List.forall_mem_singleton.mpr hw),
      doubleFree_list_iff.mpr (List.forall_mem_singleton.mpr hd), ?_⟩
    rw [nestedLists, toJson, toJsonItems, toJsonItems, Json.nesting, Json.nestingItems,
      Json.nestingItems, hnesting, Nat.max_zero]

/-- Indented text of a tree of several kinds, and the shortest text of lists that is too deep. -/
theorem ofJsonText_of_double_free_indented :
    let shown := object [("a\n", expression "${b}"), ("c", list [long 5, property "d" (type .int)])]
    ofJsonText shown.prettyJson = .ok (object [("a\n", expression "${b}"),
      ("c", list [int 5, object [("d", object [("TYPE_MODEL_VALUE", string "INT")])]])]) ∧
      ∃ e, ofJsonText (nestedLists 128).compactJson = .error e ∧ e.cause = .recursionLimit := by
  intro shown
  have hw : shown.WellFormed := by
    simp [shown, WellFormed, WellFormedItems, WellFormedFields, Fields.Distinct, Fields.names]
  have hd : shown.DoubleFree := by
    simp only [shown, doubleFree_object_iff, doubleFree_list_iff, List.forall_mem_cons,
      doubleFree_property_iff]
    exact ⟨doubleFree_scalar rfl (by decide), ⟨doubleFree_scalar rfl (by decide),
      doubleFree_scalar rfl (by decide), List.forall_mem_nil _⟩, List.forall_mem_nil _⟩
  obtain ⟨hdeepWell, hdeepFree, hdeep⟩ := nestedLists_spec 128
  refine ⟨?_, (ofJsonText_of_double_free hdeepWell hdeepFree (.inl rfl)).2 (by rw [hdeep]; decide)⟩
  have hfits : shown.toJson.nesting ≤ 127 := by decide +kernel
  rw [(ofJsonText_of_double_free hw hd (.inr rfl)).1 hfits]
  rfl

end ManagementModel.Node
