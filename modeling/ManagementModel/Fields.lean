/-!
# ManagementModel — fields in arrival order

A record of named fields keeps its names in the order in which they arrived. Writing a name that
is already there keeps its position and replaces its value, so the names stay distinct.

* `get?_insert` — reading after writing.
* `nodup_names_insert` — writing keeps the names distinct.
-/

namespace ManagementModel

/-- Named values in arrival order. -/
abbrev Fields (α : Type) := List (String × α)

namespace Fields

variable {α : Type}

/-- The value of a name. -/
def get? (name : String) : Fields α → Option α
  | [] => none
  | (n, v) :: rest => if n = name then some v else get? name rest

def contains (name : String) (fields : Fields α) : Bool :=
  (get? name fields).isSome

def names (fields : Fields α) : List String :=
  fields.map (·.1)

/-- Writes a value: in place if the name is there, at the end otherwise. -/
def insert (name : String) (value : α) : Fields α → Fields α
  | [] => [(name, value)]
  | (n, v) :: rest => if n = name then (n, value) :: rest else (n, v) :: insert name value rest

/-- Changes the value of a name, which is taken to be `start` if the name is missing. -/
def alter (name : String) (start : α) (f : α → α) : Fields α → Fields α
  | [] => [(name, f start)]
  | (n, v) :: rest => if n = name then (n, f v) :: rest else (n, v) :: alter name start f rest

/-- Writes the pairs one after the other. -/
def ofList (pairs : List (String × α)) : Fields α :=
  pairs.foldl (fun fields p => insert p.1 p.2 fields) []

attribute [grind =] get? names insert

/-- No name stands twice. -/
def Distinct (fields : Fields α) : Prop :=
  (names fields).Nodup

/-- Reading after writing: the name that was written has its new value, every other name what it
had. -/
@[simp] theorem get?_insert (name other : String) (value : α) (fields : Fields α) :
    get? other (insert name value fields) =
      if name = other then some value else get? other fields := by
  induction fields with
  | nil => simp [insert, get?]
  | cons p rest ih => grind

/-- The names after writing are the one that was written and those that were there. -/
@[simp] theorem mem_names_insert (name other : String) (value : α) (fields : Fields α) :
    other ∈ names (insert name value fields) ↔ other = name ∨ other ∈ names fields := by
  induction fields with
  | nil => simp [insert, names]
  | cons p rest ih => grind

/-- A name that is there is written in place, so writing keeps the names distinct. -/
theorem nodup_names_insert (name : String) (value : α) {fields : Fields α}
    (h : Distinct fields) : Distinct (insert name value fields) := by
  induction fields with
  | nil => simp [Distinct, insert, names]
  | cons p rest ih =>
    simp only [Distinct, names, List.map_cons, List.nodup_cons] at h ih ⊢
    have hmem := mem_names_insert name p.1 value rest
    simp only [names] at hmem
    simp only [insert]
    split
    · -- written in place
      simpa using h
    · -- the name comes from the rest, where it is new or stands already
      next hne =>
      rw [List.map_cons, List.nodup_cons, hmem]
      exact ⟨fun h' => h'.elim hne h.1, ih h.2⟩

end Fields

end ManagementModel
