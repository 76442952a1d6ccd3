import ManagementModel.Node.View
import ManagementModel.Proofs.Node.Equality
import ManagementModel.Proofs.Node.Reading
import Mathlib.Data.List.Perm.Subperm

/-!
# ManagementModel — equality of trees is an equivalence

Objects are compared from one side only: there are as many fields, and each field of the first finds
an equal one of its name in the second. Since no name stands twice, the names of the second are then
those of the first in some order, and so the comparison says the same from the other side
(`same_object_iff`). From this, symmetry and transitivity are inductions on the tree. A tree need
not equal itself, because of the doubles that are no numbers.

Equal trees read alike: what is found under a name in one of them is equal to what is found there in
the other.

Main results:

* `same_symm`, `same_trans` — equality is symmetric and transitive.
* `same_get`, `same_getPath` — equal trees have equal nodes under each name and along each path.
* `has_of_same`, `isFailure_of_same` — what else is read from equal trees.
-/

namespace ManagementModel.Node

variable {a b c : Node}

/-! ## Containers -/

/-- Lists of items are equal if they are as long as each other and equal item by item. -/
@[simp] theorem sameItems_iff {as bs : List Node} :
    sameItems as bs = true ↔ List.Forall₂ (fun a b => a.same b = true) as bs := by
  induction as generalizing bs with
  | nil => cases bs <;> simp [sameItems]
  | cons a as ih =>
    cases bs with
    | nil => simp [sameItems]
    | cons b bs => rw [sameItems, Bool.and_eq_true, ih, List.forall₂_cons]

/-- The fields of one object are found in another if each finds an equal value under its name. -/
theorem sameFields_iff {as bs : Fields Node} : sameFields as bs = true ↔
    ∀ p ∈ as, ∃ w, Fields.get? p.1 bs = some w ∧ p.2.same w = true := by
  induction as with
  | nil => simp [sameFields]
  | cons p as ih =>
    rw [sameFields, Bool.and_eq_true, ih, List.forall_mem_cons]
    refine and_congr_left fun _ => ?_
    cases Fields.get? p.1 bs with
    | none => simp
    | some w => simp

/-- Fields under the same names, in any order, with equal values. -/
def Agree (as bs : Fields Node) : Prop :=
  (Fields.names as).Perm (Fields.names bs) ∧
    ∀ name v w, Fields.get? name as = some v → Fields.get? name bs = some w → v.same w = true

/-- As many distinct names, all of which are found on the other side, are the same names. -/
theorem perm_names {as bs : Fields Node} (ha : Fields.Distinct as)
    (hlength : as.length = bs.length) (h : ∀ p ∈ as, ∃ w, Fields.get? p.1 bs = some w) :
    (Fields.names as).Perm (Fields.names bs) := by
  have hsubset : Fields.names as ⊆ Fields.names bs := by
    intro name hname
    obtain ⟨p, hp, rfl⟩ := List.mem_map.mp hname
    exact Fields.mem_names_iff.mpr (h p hp)
  refine (List.subperm_of_subset ha hsubset).perm_of_length_le ?_
  unfold Fields.names
  rw [List.length_map, List.length_map]
  omega

/-- Seen from both sides, objects are equal if their fields agree. -/
theorem same_object_iff {as bs : Fields Node} (ha : Fields.Distinct as) :
    (object as).same (object bs) = true ↔ Agree as bs := by
  rw [same, Bool.and_eq_true, beq_iff_eq, sameFields_iff]
  constructor
  · rintro ⟨hlength, hfields⟩
    refine ⟨perm_names ha hlength fun p hp => ?_, ?_⟩
    · obtain ⟨w, hw, -⟩ := hfields p hp
      exact ⟨w, hw⟩
    · intro name v w hv hw
      -- what is found under the name is the value that the comparison found
      obtain ⟨w', hw', hsame⟩ := hfields (name, v) (Fields.mem_of_get? hv)
      obtain rfl := Option.some.inj (hw.symm.trans hw')
      exact hsame
  · rintro ⟨hnames, hvalues⟩
    refine ⟨?_, ?_⟩
    · simpa [Fields.names] using hnames.length_eq
    · intro p hp
      -- the name stands on the other side too, and what is found there is equal
      have hname : p.1 ∈ Fields.names bs := hnames.subset (List.mem_map_of_mem hp)
      obtain ⟨w, hw⟩ := Fields.mem_names_iff.mp hname
      exact ⟨w, hw, hvalues p.1 p.2 w (Fields.get?_of_mem ha hp) hw⟩

/-! ## What equals a node of a kind -/

theorem same_iff_of_list {as : List Node} : (list as).same b = true ↔
    ∃ bs, b = list bs ∧ List.Forall₂ (fun a b => a.same b = true) as bs := by
  cases b <;> simp [same]

theorem same_iff_of_object {as : Fields Node} (ha : Fields.Distinct as) :
    (object as).same b = true ↔ ∃ bs, b = object bs ∧ Agree as bs := by
  cases b with
  | object bs => simp [same_object_iff ha]
  | _ => simp [same]

/-- What equals a property is a property of the same name with an equal value. -/
theorem same_iff_of_property {name : String} {v : Node} : (property name v).same b = true ↔
    ∃ w, b = property name w ∧ v.same w = true := by
  cases b with
  | property m w =>
    rw [same, Bool.and_eq_true, beq_iff_eq]
    refine ⟨?_, ?_⟩
    · rintro ⟨rfl, h⟩
      exact ⟨w, rfl, h⟩
    · rintro ⟨_, ⟨⟩, h⟩
      exact ⟨rfl, h⟩
  | _ => simp [same]

/-- What equals a double is a double that is the same number. -/
theorem same_iff_of_double {x : UInt64} : (double x).same b = true ↔
    ∃ y, b = double y ∧ Binary64.numEq x y = true := by
  cases b <;> simp [same]

@[simp] theorem kind_eq_double_iff : a.kind = .double ↔ ∃ x, a = double x := by
  cases a <;> simp [kind]

/-- A node without parts that is no double equals itself alone. -/
theorem same_iff_of_scalar (ha : a.kind.isContainer = false) (hd : a.kind ≠ .double) :
    a.same b = true ↔ a = b := by
  cases a with
  | list | object | property => cases ha
  | double => exact absurd rfl hd
  | _ => cases b <;> simp [same]

/-! ## Symmetry and transitivity -/

section

variable {α β γ : Type} {R : α → β → Prop} {S : β → γ → Prop} {T : α → γ → Prop}
  {as : List α} {bs : List β} {cs : List γ}

/-- Elements that are related one by one are elements of the two lists. -/
theorem forall₂_mem (h : List.Forall₂ R as bs) :
    List.Forall₂ (fun a b => (a ∈ as ∧ b ∈ bs) ∧ R a b) as bs := by
  refine List.forall₂_iff_zip.mpr ⟨h.length_eq, fun hab => ?_⟩
  exact ⟨List.of_mem_zip hab, List.forall₂_zip h hab⟩

/-- Relations element by element are composed. -/
theorem forall₂_trans (hab : List.Forall₂ R as bs) (hbc : List.Forall₂ S bs cs)
    (h : ∀ a b c, R a b → S b c → T a c) : List.Forall₂ T as cs := by
  induction hab generalizing cs with
  | nil =>
    rw [List.forall₂_nil_left_iff] at hbc
    rw [hbc]
    exact .nil
  | cons ha _ ih =>
    obtain ⟨c, rest, hc, hrest, rfl⟩ := List.forall₂_cons_left_iff.mp hbc
    exact .cons (h _ _ c ha hc) (ih hrest)

end

/-- Equality of well-formed trees is symmetric. -/
theorem same_symm (ha : a.WellFormed) (hb : b.WellFormed) (h : a.same b = true) :
    b.same a = true := by
  induction a using induct generalizing b with
  | scalar a hscalar =>
    by_cases hd : a.kind = .double
    · -- doubles are compared as numbers, all else as it is
      obtain ⟨x, rfl⟩ := kind_eq_double_iff.mp hd
      obtain ⟨y, rfl, hxy⟩ := same_iff_of_double.mp h
      exact Binary64.numEq_symm hxy
    · obtain rfl := (same_iff_of_scalar hscalar hd).mp h
      exact h
  | list as ih =>
    obtain ⟨bs, rfl, hparts⟩ := same_iff_of_list.mp h
    rw [wellFormed_list_iff] at ha hb
    -- item by item, from the other side
    refine same_iff_of_list.mpr ⟨as, rfl, (List.Forall₂.imp ?_ (forall₂_mem hparts)).flip⟩
    intro a b hab
    exact ih a hab.1.1 (ha a hab.1.1) (hb b hab.1.2) hab.2
  | object as ih =>
    rw [wellFormed_object_iff] at ha
    obtain ⟨bs, rfl, hnames, hvalues⟩ := (same_iff_of_object ha.1).mp h
    rw [wellFormed_object_iff] at hb
    -- the same names, read from the other side
    refine (same_object_iff hb.1).mpr ⟨hnames.symm, fun name w v hw hv => ?_⟩
    have hmem := Fields.mem_of_get? hv
    exact ih (name, v) hmem (ha.2 _ hmem) (hb.2 _ (Fields.mem_of_get? hw)) (hvalues name v w hv hw)
  | property name v ih =>
    obtain ⟨w, rfl, hw⟩ := same_iff_of_property.mp h
    exact same_iff_of_property.mpr ⟨v, rfl, ih ha hb hw⟩

/-- Equality of well-formed trees is transitive. -/
theorem same_trans (ha : a.WellFormed) (hb : b.WellFormed) (hab : a.same b = true)
    (hbc : b.same c = true) : a.same c = true := by
  induction a using induct generalizing b c with
  | scalar a hscalar =>
    by_cases hd : a.kind = .double
    · obtain ⟨x, rfl⟩ := kind_eq_double_iff.mp hd
      obtain ⟨y, rfl, hxy⟩ := same_iff_of_double.mp hab
      obtain ⟨z, rfl, hyz⟩ := same_iff_of_double.mp hbc
      exact Binary64.numEq_trans hxy hyz
    · obtain rfl := (same_iff_of_scalar hscalar hd).mp hab
      exact hbc
  | list as ih =>
    obtain ⟨bs, rfl, has⟩ := same_iff_of_list.mp hab
    obtain ⟨cs, rfl, hbs⟩ := same_iff_of_list.mp hbc
    rw [wellFormed_list_iff] at ha hb
    -- item by item, through the list in the middle
    refine same_iff_of_list.mpr ⟨cs, rfl, forall₂_trans (forall₂_mem has) hbs ?_⟩
    intro a b c hab hbc
    exact ih a hab.1.1 (ha a hab.1.1) (hb b hab.1.2) hab.2 hbc
  | object as ih =>
    rw [wellFormed_object_iff] at ha
    obtain ⟨bs, rfl, hnames, hvalues⟩ := (same_iff_of_object ha.1).mp hab
    rw [wellFormed_object_iff] at hb
    obtain ⟨cs, rfl, hnames', hvalues'⟩ := (same_iff_of_object hb.1).mp hbc
    refine (same_object_iff ha.1).mpr ⟨hnames.trans hnames', fun name v u hv hu => ?_⟩
    -- the name stands in the middle object too
    have hname : name ∈ Fields.names bs := hnames.subset (Fields.mem_names_iff.mpr ⟨v, hv⟩)
    obtain ⟨w, hw⟩ := Fields.mem_names_iff.mp hname
    have hmem := Fields.mem_of_get? hv
    exact ih (name, v) hmem (ha.2 _ hmem) (hb.2 _ (Fields.mem_of_get? hw)) (hvalues name v w hv hw)
      (hvalues' name w u hw hu)
  | property name v ih =>
    obtain ⟨w, rfl, hw⟩ := same_iff_of_property.mp hab
    obtain ⟨u, rfl, hu⟩ := same_iff_of_property.mp hbc
    exact same_iff_of_property.mpr ⟨u, rfl, ih (b := w) ha hb hw hu⟩

/-- What equals some tree equals itself. -/
theorem nanFree_of_same (ha : a.WellFormed) (hb : b.WellFormed) (h : a.same b = true) :
    a.NaNFree :=
  (same_self_iff ha).mp (same_trans ha hb h (same_symm ha hb h))

/-! ## Reading equal trees -/

theorem isDefined_of_same (h : a.same b = true) : a.isDefined = b.isDefined := by
  have hkind := kind_eq_of_same h
  -- only nodes of one kind are equal
  cases a <;> cases b <;> first | rfl | cases hkind

/-- Equal nodes have the same text. -/
theorem text?_of_same (h : a.same b = true) : a.text? = b.text? := by
  cases a with
  | string | expression =>
    obtain rfl := (same_iff_of_scalar rfl (by rintro ⟨⟩)).mp h
    rfl
  | _ =>
    have hkind := kind_eq_of_same h
    cases b <;> first | rfl | cases hkind

/-- Equal trees have equal nodes under each name. -/
theorem same_get (ha : a.WellFormed) (h : a.same b = true) (name : String) :
    (a.get name).same (b.get name) = true := by
  cases a with
  | object as =>
    rw [wellFormed_object_iff] at ha
    obtain ⟨bs, rfl, hnames, hvalues⟩ := (same_iff_of_object ha.1).mp h
    rw [get, get]
    -- the name is there on both sides, or on neither
    by_cases hname : name ∈ Fields.names as
    · obtain ⟨v, hv⟩ := Fields.mem_names_iff.mp hname
      obtain ⟨w, hw⟩ := Fields.mem_names_iff.mp (hnames.subset hname)
      rw [hv, hw]
      exact hvalues name v w hv hw
    · rw [Fields.get?_eq_none hname, Fields.get?_eq_none fun hb => hname (hnames.mem_iff.mpr hb)]
      rfl
  | property key v =>
    obtain ⟨w, rfl, hw⟩ := same_iff_of_property.mp h
    rw [get, get]
    split
    · exact hw
    · rfl
  | _ =>
    -- the other one has no children either
    have hkind := kind_eq_of_same h
    cases b <;> first | rfl | cases hkind

/-- Equal trees have equal nodes along each path. -/
theorem same_getPath (ha : a.WellFormed) (h : a.same b = true) (path : List String) :
    (a.getPath path).same (b.getPath path) = true := by
  induction path generalizing a b with
  | nil => exact h
  | cons name rest ih =>
    rw [getPath_cons, getPath_cons]
    exact ih (ha.get name) (same_get ha h name)

/-- Equal trees have the same names. -/
theorem has_of_same (ha : a.WellFormed) (h : a.same b = true) (name : String) :
    a.has name = b.has name := by
  cases a with
  | object as =>
    rw [wellFormed_object_iff] at ha
    obtain ⟨bs, rfl, hnames, -⟩ := (same_iff_of_object ha.1).mp h
    -- a name is there if it is listed, and the names are the same
    rw [Bool.eq_iff_iff, has, has, Fields.contains, Fields.contains, Option.isSome_iff_exists,
      Option.isSome_iff_exists, ← Fields.mem_names_iff, ← Fields.mem_names_iff]
    exact hnames.mem_iff
  | property key v =>
    obtain ⟨w, rfl, -⟩ := same_iff_of_property.mp h
    rfl
  | _ =>
    have hkind := kind_eq_of_same h
    cases b <;> first | rfl | cases hkind

theorem hasDefined_of_same (ha : a.WellFormed) (h : a.same b = true) (name : String) :
    a.hasDefined name = b.hasDefined name := by
  rw [hasDefined_eq, hasDefined_eq]
  exact isDefined_of_same (same_get ha h name)

theorem isFailure_of_same (ha : a.WellFormed) (h : a.same b = true) :
    a.isFailure = b.isFailure := by
  unfold isFailure
  rw [text?_of_same (same_get ha h "outcome")]

end ManagementModel.Node
