import ManagementModel.Proofs.Node.Reading

/-!
# ManagementModel — writing and reading along paths

Writing at the end of a path makes the nodes on the way. It walks on from an object, and it takes
the undefined value for an object without fields; these two are the records. A node of any other
shape is replaced by an empty object, and with it goes everything that could be read below it: a
property is no record, although reading looks into it.

So what a write leaves alone is decided where its path parts from another one. If every node on
their common way is a record, the other path reads what it read before, and otherwise it reads
nothing any more.

Main results:

* `getPath_setPath` — reading what was written.
* `getPath_setPath_apart` — reading along a path that parts from the written one.
* `names_getPath_setPath` — the names of a node on the way.
* `setPath_laws` — all three for any two paths.
-/

namespace ManagementModel

/-! ## Paths -/

/-- The longest path that two paths begin with. -/
def commonPrefix : List String → List String → List String
  | a :: p, b :: q => if a = b then a :: commonPrefix p q else []
  | _, _ => []

/-- Whatever two paths both begin with, their common prefix begins with. -/
@[simp] theorem prefix_commonPrefix_iff {r p q : List String} :
    r <+: commonPrefix p q ↔ r <+: p ∧ r <+: q := by
  induction r generalizing p q with
  | nil => simp
  | cons name r ih =>
    match p, q with
    | [], q => simp [commonPrefix]
    | a :: p, [] => simp [commonPrefix]
    | a :: p, b :: q =>
      unfold commonPrefix
      split
      · next hab =>
        subst hab
        rw [List.cons_prefix_cons, List.cons_prefix_cons, List.cons_prefix_cons, ih]
        tauto
      · next hab =>
        -- no name is the first of both
        rw [List.cons_prefix_cons, List.cons_prefix_cons]
        constructor
        · intro h
          exact absurd (List.prefix_nil.mp h) (List.cons_ne_nil _ _)
        · rintro ⟨⟨rfl, -⟩, rfl, -⟩
          exact absurd rfl hab

/-- Two paths, neither of which begins with the other, part behind their common prefix. -/
theorem exists_eq_commonPrefix_append {p q : List String} (hpq : ¬ p <+: q) (hqp : ¬ q <+: p) :
    ∃ a b p' q', a ≠ b ∧ p = commonPrefix p q ++ a :: p' ∧ q = commonPrefix p q ++ b :: q' := by
  induction p generalizing q with
  | nil => exact absurd List.nil_prefix hpq
  | cons a p ih =>
    cases q with
    | nil => exact absurd List.nil_prefix hqp
    | cons b q =>
      by_cases hab : a = b
      · subst hab
        rw [List.prefix_cons_inj] at hpq hqp
        -- the rests part further on
        obtain ⟨c, d, p', q', hcd, hp, hq⟩ := ih hpq hqp
        rw [commonPrefix, if_pos rfl]
        exact ⟨c, d, p', q', hcd, congrArg (a :: ·) hp, congrArg (a :: ·) hq⟩
      · -- they part here
        rw [commonPrefix, if_neg hab]
        exact ⟨a, b, p, q, hab, rfl, rfl⟩

namespace Node

/-! ## Records -/

/-- An object, or the undefined value, which has no fields yet. -/
def IsRecord : Node → Prop
  | object _ => True
  | undefined => True
  | _ => False

/-- Every node on the way along a path is a record, from the root to the end of the path. -/
def RecordsAlong (n : Node) (path : List String) : Prop :=
  ∀ r, r <+: path → (n.getPath r).IsRecord

/-- Below the undefined value every node is undefined, and so a record. -/
@[simp] theorem recordsAlong_undefined (path : List String) : undefined.RecordsAlong path := by
  intro r _
  rw [getPath_undefined]
  trivial

/-- The empty path leads to the root alone. -/
@[simp] theorem recordsAlong_nil_iff {n : Node} : n.RecordsAlong [] ↔ n.IsRecord := by
  constructor
  · intro h
    exact h [] List.nil_prefix
  · intro h r hr
    rw [List.prefix_nil.mp hr]
    exact h

/-- Along a path means at the root and along the rest of the path from the child. -/
@[simp] theorem recordsAlong_cons_iff {n : Node} {name : String} {rest : List String} :
    n.RecordsAlong (name :: rest) ↔ n.IsRecord ∧ (n.get name).RecordsAlong rest := by
  constructor
  · intro h
    refine ⟨h [] List.nil_prefix, ?_⟩
    intro r hr
    exact h (name :: r) (List.prefix_cons_inj name |>.mpr hr)
  · rintro ⟨hn, hrest⟩ r hr
    cases r with
    | nil => exact hn
    | cons a r =>
      obtain ⟨rfl, htail⟩ := List.cons_prefix_cons.mp hr
      exact hrest r htail

/-- Editing a record goes on from the child that reading finds. -/
theorem field_of_isRecord {n : Node} (h : n.IsRecord) (name : String) :
    n.field name = n.get name := by
  cases n with
  | object | undefined => rfl
  | _ => exact h.elim

/-- Editing anything else starts from nothing. -/
theorem field_of_not_isRecord {n : Node} (h : ¬ n.IsRecord) (name : String) :
    n.field name = undefined := by
  cases n with
  | object | undefined => exact absurd trivial h
  | _ => rfl

/-- Editing a record starts from the fields that it has. -/
theorem names_editable {n : Node} (h : n.IsRecord) : Fields.names n.editable = n.names := by
  cases n with
  | object | undefined => rfl
  | _ => exact h.elim

/-! ## One name -/

/-- Editing under a name changes what editing finds there; all else is as editing finds it. -/
theorem get_modify (name other : String) (f : Node → Node) (n : Node) :
    (n.modify name f).get other = if name = other then f (n.field name) else n.field other := by
  unfold modify
  rw [get, Fields.alter_eq_insert, Fields.get?_insert]
  split <;> rfl

theorem names_modify (name : String) (f : Node → Node) {n : Node} (h : n.IsRecord) :
    (n.modify name f).names = if name ∈ n.names then n.names else n.names ++ [name] := by
  unfold modify
  rw [names, Fields.alter_eq_insert, Fields.names_insert, names_editable h]

/-! ## Paths of names -/

variable {n v : Node}

/-- A write below a name is a write into the child that editing finds there. -/
@[simp] theorem get_setPath_cons (n : Node) (name : String) (rest : List String) (v : Node) :
    (n.setPath (name :: rest) v).get name = (n.field name).setPath rest v := by
  unfold setPath
  rw [modifyPath, get_modify, if_pos rfl]

/-- A write below another name leaves the child as editing finds it. -/
theorem get_setPath_cons_of_ne {name other : String} (h : name ≠ other) (n : Node)
    (rest : List String) (v : Node) : (n.setPath (name :: rest) v).get other = n.field other := by
  unfold setPath
  rw [modifyPath, get_modify, if_neg h]

/-- What was written is read, whatever stood in the way. -/
theorem getPath_setPath (n : Node) (path : List String) (v : Node) :
    (n.setPath path v).getPath path = v := by
  induction path generalizing n with
  | nil => rfl
  | cons name rest ih => rw [getPath_cons, get_setPath_cons, ih]

/-- Two paths that part behind `c`: one is read where the other one was written. -/
theorem getPath_setPath_apart {a b : String} (hab : a ≠ b) (c p q : List String) (n v : Node) :
    (n.RecordsAlong c →
      (n.setPath (c ++ a :: p) v).getPath (c ++ b :: q) = n.getPath (c ++ b :: q)) ∧
    (¬ n.RecordsAlong c → (n.setPath (c ++ a :: p) v).getPath (c ++ b :: q) = undefined) := by
  -- the induction follows the common way into the child that the write goes on from
  induction c generalizing n with
  | nil =>
    -- the paths part at this node: the other name is what editing finds there
    rw [recordsAlong_nil_iff, List.nil_append, List.nil_append, getPath_cons, getPath_cons,
      get_setPath_cons_of_ne hab]
    constructor
    · intro h
      rw [field_of_isRecord h]
    · intro h
      rw [field_of_not_isRecord h, getPath_undefined]
  | cons name c ih =>
    obtain ⟨hkept, hlost⟩ := ih (n.field name)
    rw [recordsAlong_cons_iff, List.cons_append, List.cons_append, getPath_cons, getPath_cons,
      get_setPath_cons]
    by_cases hn : n.IsRecord
    · rw [field_of_isRecord hn] at hkept hlost ⊢
      constructor
      · intro h
        exact hkept h.2
      · intro h
        exact hlost fun hc => h ⟨hn, hc⟩
    · -- the node is replaced, and below the new object there is nothing to keep
      rw [field_of_not_isRecord hn] at hkept ⊢
      constructor
      · intro h
        exact absurd h.1 hn
      · intro _
        rw [hkept (recordsAlong_undefined c), getPath_undefined]

/-- A node on the way gets the next name, at the end if it is new, and keeps all others. -/
theorem names_getPath_setPath {r : List String} (h : n.RecordsAlong r) (name : String)
    (rest : List String) (v : Node) :
    ((n.setPath (r ++ name :: rest) v).getPath r).names =
      if name ∈ (n.getPath r).names then (n.getPath r).names
      else (n.getPath r).names ++ [name] := by
  induction r generalizing n with
  | nil => exact names_modify name _ (recordsAlong_nil_iff.mp h)
  | cons first r ih =>
    obtain ⟨hn, hr⟩ := recordsAlong_cons_iff.mp h
    -- the write goes on from the child that reading finds
    rw [List.cons_append, getPath_cons, getPath_cons, get_setPath_cons, field_of_isRecord hn]
    exact ih hr

/-- Writing along a path and reading along any other. What was written is read. A path that parts
from the written one reads what it read before if all nodes up to the parting are records, and
nothing otherwise. A node that is reached through records alone keeps its names in their order, and
the next name of the path comes behind them if it is new. -/
theorem setPath_laws (n : Node) (p : List String) (v : Node) :
    let n' := n.setPath p v
    n'.getPath p = v ∧
    (∀ q, ¬ p <+: q → ¬ q <+: p →
      (n.RecordsAlong (commonPrefix p q) → n'.getPath q = n.getPath q) ∧
      (¬ n.RecordsAlong (commonPrefix p q) → n'.getPath q = undefined)) ∧
    ∀ r name rest, p = r ++ name :: rest → n.RecordsAlong r →
      (n'.getPath r).names =
        if name ∈ (n.getPath r).names then (n.getPath r).names
        else (n.getPath r).names ++ [name] := by
  intro n'
  refine ⟨getPath_setPath n p v, ?_, ?_⟩
  · intro q hpq hqp
    -- neither path begins with the other, so they part behind their common prefix
    obtain ⟨a, b, p', q', hab, hp, hq⟩ := exists_eq_commonPrefix_append hpq hqp
    have hapart := getPath_setPath_apart hab (commonPrefix p q) p' q' n v
    rwa [← hp, ← hq] at hapart
  · rintro r name rest rfl h
    exact names_getPath_setPath h name rest v

/-- A write along `server`, `state` into a tree that has a property on the way to `host`. What
stands beside the way is kept, and so is what the object at `server` holds; a name behind the
property is lost when the write goes through the property. -/
theorem setPath_laws_property :
    let n : Node := .object [("host", .property "name" (.string "primary")),
      ("server", .object [("port", .int 9990)])]
    let kept := n.setPath ["server", "state"] (.string "running")
    let lost := n.setPath ["host", "state"] (.string "running")
    kept.getPath ["server", "state"] = .string "running" ∧
      kept.getPath ["server", "port"] = .int 9990 ∧
      (kept.getPath ["server"]).names = ["port", "state"] ∧
      kept.getPath ["host", "name"] = .string "primary" ∧
      lost.getPath ["host", "name"] = .undefined := by
  intro n kept lost
  obtain ⟨hread, hapart, hnames⟩ := setPath_laws n ["server", "state"] (.string "running")
  obtain ⟨-, hlost, -⟩ := setPath_laws n ["host", "state"] (.string "running")
  have hserver : n.RecordsAlong ["server"] :=
    recordsAlong_cons_iff.mpr ⟨trivial, recordsAlong_nil_iff.mpr trivial⟩
  have hroot : n.RecordsAlong [] := recordsAlong_nil_iff.mpr trivial
  -- the property at `host` is no record
  have hhost : ¬ n.RecordsAlong ["host"] := by
    intro h
    exact recordsAlong_nil_iff.mp (recordsAlong_cons_iff.mp h).2
  refine ⟨hread, ?_, ?_, ?_, ?_⟩
  · exact ((hapart ["server", "port"] (by decide) (by decide)).1 hserver).trans rfl
  · exact (hnames ["server"] "state" [] rfl hserver).trans rfl
  · exact ((hapart ["host", "name"] (by decide) (by decide)).1 hroot).trans rfl
  · exact (hlost ["host", "name"] (by decide) (by decide)).2 hhost

end Node

end ManagementModel
