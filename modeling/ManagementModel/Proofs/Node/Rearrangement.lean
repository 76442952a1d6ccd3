import ManagementModel.Proofs.Node.Equivalence
import ManagementModel.Proofs.Wire.Layout
import ManagementModel.Wire.Writer
import Mathlib.Logic.Relation

/-!
# ManagementModel — what equality of trees leaves open

Equality is a test; here is a relation that does not mention it. A tree is rearranged by giving the
fields of one object in it another order, or one zero in it another sign, again and again. All
trees that are reached in this way are equal to the first one if it has no NaN, and there are no
others: an equal tree is reached by rearranging the parts one after the other, and the fields of the
object last.

Rearranging moves the pieces of what is written and changes the length of none. So equal trees are
written or not written together, and in as many bytes.

Main results:

* `same_of_rearranged`, `rearranged_of_same` — equality is rearrangement of trees without NaN.
* `layout_perm_of_rearranged` — rearranging moves the pieces of what is written.
* `same_laws` — all that is said about equal trees.
-/

namespace ManagementModel.Node

variable {a b c : Node}

/-! ## Rearranging -/

/-- One object of a tree has its fields in another order, or one zero another sign. -/
inductive Shifts : Node → Node → Prop
  | fields {as bs : Fields Node} (h : as.Perm bs) : Shifts (object as) (object bs)
  | zero {x y : UInt64} (hx : Binary64.magnitude x = 0) (hy : Binary64.magnitude y = 0) :
      Shifts (double x) (double y)
  | item {front back : List Node} {a b : Node} (h : Shifts a b) :
      Shifts (list (front ++ a :: back)) (list (front ++ b :: back))
  | field {front back : Fields Node} {name : String} {a b : Node} (h : Shifts a b) :
      Shifts (object (front ++ (name, a) :: back)) (object (front ++ (name, b) :: back))
  | value {name : String} {a b : Node} (h : Shifts a b) :
      Shifts (property name a) (property name b)

/-- The second tree is reached from the first by reordering fields and changing signs of zeros. -/
def Rearranged : Node → Node → Prop :=
  Relation.ReflTransGen Shifts

/-! ## Rearranged trees are equal -/

/-- One step of rearranging keeps a tree well formed. -/
theorem Shifts.wellFormed (h : Shifts a b) (ha : a.WellFormed) : b.WellFormed := by
  induction h with
  | fields hperm =>
    rw [wellFormed_object_iff] at ha ⊢
    refine ⟨(hperm.map _).nodup_iff.mp ha.1, fun p hp => ha.2 p (hperm.mem_iff.mpr hp)⟩
  | zero => trivial
  | item _ ih =>
    rw [wellFormed_list_iff, List.forall_mem_append, List.forall_mem_cons] at ha ⊢
    exact ⟨ha.1, ih ha.2.1, ha.2.2⟩
  | field _ ih =>
    rw [wellFormed_object_iff, List.forall_mem_append, List.forall_mem_cons] at ha ⊢
    refine ⟨?_, ha.2.1, ih ha.2.2.1, ha.2.2.2⟩
    -- a new value leaves the names as they are
    have hdistinct := ha.1
    unfold Fields.Distinct Fields.names at hdistinct ⊢
    rw [List.map_append, List.map_cons] at hdistinct ⊢
    exact hdistinct
  | value _ ih => exact ih ha

/-- Objects of one size are equal if each field of the first has an equal one in the second. -/
theorem same_object_of_mem {as bs : Fields Node} (hb : Fields.Distinct bs)
    (hlength : as.length = bs.length) (h : ∀ p ∈ as, ∃ w, (p.1, w) ∈ bs ∧ p.2.same w = true) :
    (object as).same (object bs) = true := by
  rw [same, Bool.and_eq_true, beq_iff_eq, sameFields_iff]
  refine ⟨hlength, fun p hp => ?_⟩
  obtain ⟨w, hw, hsame⟩ := h p hp
  exact ⟨w, Fields.get?_of_mem hb hw, hsame⟩

/-- One step of rearranging leads to an equal tree, if there is no NaN. -/
theorem same_of_shifts (ha : a.WellFormed) (hn : a.NaNFree) (h : Shifts a b) :
    a.same b = true := by
  have hb := h.wellFormed ha
  -- on the way down to the place of the change, everything beside it equals itself
  induction h with
  | @fields as bs hperm =>
    rw [wellFormed_object_iff] at ha hb
    rw [nanFree_object_iff] at hn
    -- each field is found elsewhere, and equals itself
    refine same_object_of_mem hb.1 hperm.length_eq fun p hp => ?_
    exact ⟨p.2, hperm.mem_iff.mp hp, (same_self_iff (ha.2 p hp)).mpr (hn p hp)⟩
  | zero hx hy =>
    rw [same, Binary64.numEq_iff]
    exact ⟨Binary64.isNaN_of_magnitude hx, Binary64.isNaN_of_magnitude hy, .inr ⟨hx, hy⟩⟩
  | @item front back a b h ih =>
    rw [wellFormed_list_iff] at ha hb
    rw [nanFree_list_iff] at hn
    have hself : ∀ item ∈ front ++ a :: back, item.same item = true :=
      fun item hitem => (same_self_iff (ha item hitem)).mpr (hn item hitem)
    rw [List.forall_mem_append, List.forall_mem_cons] at ha hb hn hself
    -- the items in front, the changed one, and those behind
    refine same_iff_of_list.mpr ⟨_, rfl, List.rel_append (List.forall₂_same.mpr hself.1) ?_⟩
    exact .cons (ih ha.2.1 hn.2.1 hb.2.1) (List.forall₂_same.mpr hself.2.2)
  | @field front back name a b h ih =>
    rw [wellFormed_object_iff] at ha hb
    rw [nanFree_object_iff] at hn
    have hself : ∀ p ∈ front ++ (name, a) :: back, p.2.same p.2 = true :=
      fun p hp => (same_self_iff (ha.2 p hp)).mpr (hn p hp)
    refine same_object_of_mem hb.1 (by simp) fun p hp => ?_
    have hpself := hself p hp
    rw [List.mem_append, List.mem_cons] at hp
    rcases hp with hp | rfl | hp
    · -- a field in front of the changed one
      exact ⟨p.2, List.mem_append_left _ hp, hpself⟩
    · have hmem : (name, b) ∈ front ++ (name, b) :: back := by simp
      exact ⟨b, hmem, ih (ha.2 (name, a) (by simp)) (hn (name, a) (by simp)) (hb.2 _ hmem)⟩
    · exact ⟨p.2, List.mem_append_right _ (List.mem_cons_of_mem _ hp), hpself⟩
  | value _ ih =>
    rw [same, beq_self_eq_true, Bool.true_and]
    exact ih ha (nanFree_property_iff.mp hn) hb

/-- What is reached from a tree without NaN is equal to it. -/
theorem same_of_rearranged (ha : a.WellFormed) (hn : a.NaNFree) (h : a.Rearranged b) :
    b.WellFormed ∧ a.same b = true := by
  unfold Rearranged at h
  induction h with
  | refl => exact ⟨ha, (same_self_iff ha).mpr hn⟩
  | tail _ hstep ih =>
    obtain ⟨hb, hab⟩ := ih
    -- the tree before the last step has no NaN, since it equals the first
    have hbn := nanFree_of_same hb ha (same_symm ha hb hab)
    exact ⟨hstep.wellFormed hb, same_trans ha hb hab (same_of_shifts hb hbn hstep)⟩

/-! ## Equal trees are rearranged -/

section

variable {as bs : List Node} {name : String}

theorem Rearranged.item {front back : List Node} (h : a.Rearranged b) :
    (list (front ++ a :: back)).Rearranged (list (front ++ b :: back)) :=
  Relation.ReflTransGen.lift (fun n => list (front ++ n :: back)) (fun _ _ => .item) _ _ h

theorem Rearranged.field {front back : Fields Node} (h : a.Rearranged b) :
    (object (front ++ (name, a) :: back)).Rearranged (object (front ++ (name, b) :: back)) :=
  Relation.ReflTransGen.lift (fun n => object (front ++ (name, n) :: back))
    (fun _ _ => .field) _ _ h

theorem Rearranged.value (h : a.Rearranged b) :
    (property name a).Rearranged (property name b) :=
  Relation.ReflTransGen.lift (property name) (fun _ _ => .value) _ _ h

/-- Items one after the other, behind those that are done. -/
theorem rearranged_items (done : List Node) (h : List.Forall₂ Rearranged as bs) :
    (list (done ++ as)).Rearranged (list (done ++ bs)) := by
  induction h generalizing done with
  | nil => exact .refl
  | @cons a b as bs hab _ ih =>
    -- this item first, and then it is among those that are done
    have hrest := ih (done ++ [b])
    rw [List.append_assoc, List.append_assoc] at hrest
    exact hab.item.trans hrest

/-- The values of fields one after the other. -/
theorem rearranged_values (f : Fields Node) (g : String → Node) (done : Fields Node)
    (h : ∀ p ∈ f, p.2.Rearranged (g p.1)) :
    (object (done ++ f)).Rearranged (object (done ++ f.map fun p => (p.1, g p.1))) := by
  induction f generalizing done with
  | nil => exact .refl
  | cons p rest ih =>
    obtain ⟨hp, hrest⟩ := List.forall_mem_cons.mp h
    -- this value first, and then it is among those that are done
    have hdone := ih (done ++ [(p.1, g p.1)]) hrest
    rw [List.append_assoc, List.append_assoc] at hdone
    exact hp.field.trans hdone

end

/-- Equal trees are rearrangements of each other. -/
theorem rearranged_of_same (ha : a.WellFormed) (hb : b.WellFormed) (h : a.same b = true) :
    a.Rearranged b := by
  induction a using induct generalizing b with
  | scalar a hscalar =>
    by_cases hd : a.kind = .double
    · obtain ⟨x, rfl⟩ := kind_eq_double_iff.mp hd
      obtain ⟨y, rfl, hxy⟩ := same_iff_of_double.mp h
      -- equal numbers are the same word, or two zeros
      rcases (Binary64.numEq_iff.mp hxy).2.2 with rfl | ⟨hx, hy⟩
      · exact .refl
      · exact .single (.zero hx hy)
    · obtain rfl := (same_iff_of_scalar hscalar hd).mp h
      exact .refl
  | list as ih =>
    obtain ⟨bs, rfl, hparts⟩ := same_iff_of_list.mp h
    rw [wellFormed_list_iff] at ha hb
    refine rearranged_items [] (List.Forall₂.imp ?_ (forall₂_mem hparts))
    intro a b hab
    exact ih a hab.1.1 (ha a hab.1.1) (hb b hab.1.2) hab.2
  | object as ih =>
    rw [wellFormed_object_iff] at ha
    obtain ⟨bs, rfl, hnames, hvalues⟩ := (same_iff_of_object ha.1).mp h
    rw [wellFormed_object_iff] at hb
    -- first the values, under the names of the first object, and then the order of the fields
    let found := fun name => (Fields.get? name bs).getD undefined
    have hfields : ∀ p ∈ as, p.2.Rearranged (found p.1) := by
      intro p hp
      obtain ⟨w, hw⟩ := Fields.mem_names_iff.mp (hnames.subset (List.mem_map_of_mem hp))
      show p.2.Rearranged ((Fields.get? p.1 bs).getD undefined)
      rw [hw]
      exact ih p hp (ha.2 p hp) (hb.2 _ (Fields.mem_of_get? hw))
        (hvalues p.1 p.2 w (Fields.get?_of_mem ha.1 hp) hw)
    have horder : (as.map fun p => (p.1, found p.1)).Perm bs := by
      have hperm := hnames.map fun name => (name, found name)
      rw [Fields.map_names_get? hb.1, Fields.names, List.map_map] at hperm
      exact hperm
    exact (rearranged_values as found [] hfields).tail (.fields horder)
  | property name v ih =>
    obtain ⟨w, rfl, hw⟩ := same_iff_of_property.mp h
    exact (ih (b := w) ha hb hw).value

/-! ## Writing -/

/-- Rearranging moves the pieces of what is written. -/
theorem layout_perm (h : Shifts a b) : (Wire.layout a).Perm (Wire.layout b) := by
  induction h with
  | fields hperm =>
    -- the count stays, and each name takes its value along
    unfold Wire.layout
    rw [Wire.fieldLayout_eq_flatMap, Wire.fieldLayout_eq_flatMap, hperm.length_eq]
    exact ((hperm.flatMap_right _).cons _).cons _
  | zero => exact .refl _
  | item _ ih =>
    -- what is written in front of the item and behind it does not move
    unfold Wire.layout
    rw [Wire.itemLayout_eq_flatMap, Wire.itemLayout_eq_flatMap, List.length_append,
      List.length_append, List.flatMap_append, List.flatMap_append]
    refine ((List.Perm.append_left _ ?_).cons _).cons _
    exact ih.append_right _
  | field _ ih =>
    unfold Wire.layout
    rw [Wire.fieldLayout_eq_flatMap, Wire.fieldLayout_eq_flatMap, List.length_append,
      List.length_append, List.flatMap_append, List.flatMap_append]
    refine ((List.Perm.append_left _ ?_).cons _).cons _
    exact (ih.cons _).append_right _
  | value _ ih =>
    unfold Wire.layout
    exact (ih.cons _).cons _

/-- However often a tree is rearranged, the pieces of what is written are the same. -/
theorem layout_perm_of_rearranged (h : a.Rearranged b) :
    (Wire.layout a).Perm (Wire.layout b) := by
  unfold Rearranged at h
  induction h with
  | refl => exact .refl _
  | tail _ hstep ih => exact ih.trans (layout_perm hstep)

/-- Rearranging does not change how many bytes are written. -/
theorem size_of_rearranged (h : a.Rearranged b) : Wire.size a = Wire.size b := by
  have hsizes := (layout_perm_of_rearranged h).map Wire.Piece.size
  -- the size is the sum over the pieces
  rw [← (Wire.measures_layout a).2, ← (Wire.measures_layout b).2]
  exact hsizes.sum_nat

/-- Rearranging leaves a tree one that can be written, or one that cannot. -/
theorem faults_of_rearranged (h : a.Rearranged b) :
    Wire.faults a = [] ↔ Wire.faults b = [] := by
  have hfaults := (layout_perm_of_rearranged h).flatMap_right Wire.Piece.faults
  rw [(Wire.measures_layout a).1, (Wire.measures_layout b).1] at hfaults
  -- the faults are those of the pieces, in another order
  constructor
  · intro ha
    rw [ha] at hfaults
    exact hfaults.nil_eq.symm
  · intro hb
    rw [hb] at hfaults
    exact hfaults.eq_nil

/-! ## Laws of equality -/

/-- Equality is symmetric and transitive, and a tree equals itself if it has no NaN. Two trees are
equal exactly if the second one is a rearrangement of the first, which has no NaN. All that is read
from equal trees is equal, and they are written in as many bytes or not at all. -/
theorem same_laws (a b c : Node) (ha : a.WellFormed) (hb : b.WellFormed) :
    (a.same b = true → b.same a = true) ∧
    (a.same b = true → b.same c = true → a.same c = true) ∧
    (a.same a = true ↔ a.NaNFree) ∧
    (a.same b = true ↔ a.NaNFree ∧ a.Rearranged b) ∧
    (a.same b = true →
      (∀ path, (a.getPath path).same (b.getPath path) = true) ∧
      (∀ name, a.has name = b.has name ∧ a.hasDefined name = b.hasDefined name) ∧
      a.isFailure = b.isFailure ∧
      ((∃ bs, a.toBytes = .ok bs) ↔ ∃ bs, b.toBytes = .ok bs) ∧
      ∀ bs cs, a.toBytes = .ok bs → b.toBytes = .ok cs → bs.length = cs.length) := by
  refine ⟨same_symm ha hb, same_trans ha hb, same_self_iff ha, ⟨fun h => ?_, fun h => ?_⟩,
    fun h => ⟨same_getPath ha h, fun name => ?_, isFailure_of_same ha h, ?_, ?_⟩⟩
  · exact ⟨nanFree_of_same ha hb h, rearranged_of_same ha hb h⟩
  · exact (same_of_rearranged ha h.1 h.2).2
  · exact ⟨has_of_same ha h name, hasDefined_of_same ha h name⟩
  · show (∃ bs, Wire.write a = .ok bs) ↔ ∃ bs, Wire.write b = .ok bs
    rw [Wire.exists_write_eq_ok_iff, Wire.exists_write_eq_ok_iff]
    exact faults_of_rearranged (rearranged_of_same ha hb h)
  · intro bs cs hbs hcs
    rw [Wire.length_of_write hbs, Wire.length_of_write hcs]
    exact size_of_rearranged (rearranged_of_same ha hb h)

/-- Fields in another order at two depths, and a zero with another sign. -/
theorem same_laws_zero :
    let a := object [("outcome", string "failed"),
      ("result", list [double 0, object [("x", int 1), ("y", property "z" (double 0))]])]
    let b := object [
      ("result", list [double 0x8000000000000000,
        object [("y", property "z" (double 0x8000000000000000)), ("x", int 1)]]),
      ("outcome", string "failed")]
    a.Rearranged b ∧ b.same a = true ∧ a.isFailure = b.isFailure := by
  intro a b
  have ha : a.WellFormed := by
    simp [a, WellFormed, WellFormedFields, WellFormedItems, Fields.Distinct, Fields.names]
  have hb : b.WellFormed := by
    simp [b, WellFormed, WellFormedFields, WellFormedItems, Fields.Distinct, Fields.names]
  have hsame : a.same b = true := by decide +kernel
  obtain ⟨hsymm, -, -, hiff, hreads⟩ := same_laws a b a ha hb
  exact ⟨(hiff.mp hsame).2, hsymm hsame, (hreads hsame).2.2.1⟩

end ManagementModel.Node
