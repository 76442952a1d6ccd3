import ManagementModel.Node.Access
import ManagementModel.Proofs.Fields
import ManagementModel.Proofs.Node.Induction

/-!
# ManagementModel — what reading finds

Reading by name, asking whether a name is there and listing the names agree with each other on
every tree. A name that reading finds defined is among the names of the node, be it an object or a
property. A path leads to a defined node only through defined nodes, each of which lists the next
name of the path.

Main results:

* `hasDefined_eq` — a defined child is one that reading finds.
* `mem_names_of_getPath` — a path to a defined node begins with one of the names.
* `WellFormed.getPath`, `WellFormed.nodup_names` — well-formed trees list no name twice anywhere.
-/

namespace ManagementModel.Node

variable {n : Node} {name : String} {rest : List String}

/-! ## Paths -/

/-- A path goes on from the child that its first name finds. -/
@[simp] theorem getPath_cons (n : Node) (name : String) (rest : List String) :
    n.getPath (name :: rest) = (n.get name).getPath rest :=
  rfl

/-- Below the undefined value there is nothing. -/
@[simp] theorem getPath_undefined (path : List String) : undefined.getPath path = undefined := by
  induction path with
  | nil => rfl
  | cons name rest ih => exact ih

/-- A path leads to a defined node through defined nodes only. -/
theorem isDefined_of_getPath (path : List String) (h : (n.getPath path).isDefined = true) :
    n.isDefined = true := by
  cases n with
  | undefined =>
    rw [getPath_undefined] at h
    cases h
  | _ => rfl

/-! ## Names -/

/-- A child that is defined is there. -/
theorem has_of_get (h : (n.get name).isDefined = true) : n.has name = true := by
  cases n with
  | object fields =>
    rw [has, Fields.contains]
    rw [get] at h
    cases hv : Fields.get? name fields with
    | none =>
      rw [hv] at h
      cases h
    | some v => rfl
  | property key value =>
    rw [get] at h
    split at h
    · -- a property has its own name and no other
      next hkey => exact decide_eq_true hkey
    · cases h
  | _ => cases h

/-- A name that is not there is read as the undefined value. -/
theorem get_eq_undefined (h : n.has name = false) : n.get name = undefined := by
  have hget : (n.get name).isDefined = false := by
    by_contra hne
    rw [has_of_get (Bool.of_not_eq_false hne)] at h
    cases h
  -- only the undefined value is not defined
  cases hv : n.get name with
  | undefined => rfl
  | _ =>
    rw [hv] at hget
    cases hget

/-- A defined child is one that reading finds. -/
theorem hasDefined_eq (n : Node) (name : String) : n.hasDefined name = (n.get name).isDefined := by
  unfold hasDefined
  cases h : (n.get name).isDefined with
  | false => rw [Bool.and_false]
  | true => rw [has_of_get h, Bool.true_and]

/-- A name that is read as something is listed. -/
theorem mem_names_of_get (h : (n.get name).isDefined = true) : name ∈ n.names := by
  cases n with
  | object fields =>
    -- a name that is not listed has no value
    by_contra hname
    rw [get] at h
    rw [Fields.get?_eq_none hname] at h
    cases h
  | property key value =>
    rw [get] at h
    split at h
    · next hkey => exact List.mem_singleton.mpr hkey.symm
    · cases h
  | _ => cases h

/-- The first name of a path that leads somewhere is listed. -/
theorem mem_names_of_getPath (h : (n.getPath (name :: rest)).isDefined = true) :
    name ∈ n.names :=
  mem_names_of_get (isDefined_of_getPath rest h)

/-! ## Well-formed trees -/

/-- The children of a well-formed tree are well formed. -/
theorem WellFormed.get (h : n.WellFormed) (name : String) : (n.get name).WellFormed := by
  cases n with
  | object fields =>
    rw [Node.get]
    rw [wellFormed_object_iff] at h
    cases hv : Fields.get? name fields with
    | none => trivial
    | some v => exact h.2 (name, v) (Fields.mem_of_get? hv)
  | property key value =>
    rw [Node.get]
    split
    · exact h
    · trivial
  | _ => trivial

/-- What a path leads to in a well-formed tree is well formed. -/
theorem WellFormed.getPath (h : n.WellFormed) (path : List String) :
    (n.getPath path).WellFormed := by
  induction path generalizing n with
  | nil => exact h
  | cons name rest ih => exact ih (h.get name)

/-- A well-formed tree lists no name twice. -/
theorem WellFormed.nodup_names (h : n.WellFormed) : n.names.Nodup := by
  cases n with
  | object fields => exact (wellFormed_object_iff.mp h).1
  | property key value => exact List.pairwise_singleton _ key
  | _ => exact List.nodup_nil

end ManagementModel.Node
