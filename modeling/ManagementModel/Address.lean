import ManagementModel.Node.View

/-!
# ManagementModel — resource addresses

An address is the sequence of named values that leads from the root of the management model to one
resource. Its text form is for people; in operations an address is a list of properties.

* `ofNode_toNode` — the address that the node form of an address spells is that address.
-/

namespace ManagementModel

/-- The named values on the way from the root to a resource. -/
structure Address where
  segments : List (String × String)
deriving DecidableEq, Repr

namespace Address

def root : Address := ⟨[]⟩

/-- The resource of a name and value below an address. -/
def push (a : Address) (name value : String) : Address :=
  ⟨a.segments ++ [(name, value)]⟩

def isRoot (a : Address) : Bool := a.segments.isEmpty

def size (a : Address) : Nat := a.segments.length

/-- The address that a node spells by its named values; each is taken as a text. -/
def ofNode (node : Node) : Address :=
  ⟨node.properties.map fun p => (p.1, p.2.asString)⟩

/-- A list of properties with texts for values. -/
def toNode (a : Address) : Node :=
  .list (a.segments.map fun p => .property p.1 (.string p.2))

/-- The form that messages show. -/
def text (a : Address) : String :=
  if a.isRoot then "/" else String.join (a.segments.map fun p => "/" ++ p.1 ++ "=" ++ p.2)

@[simp] theorem ofNode_toNode (a : Address) : ofNode a.toNode = a := by
  obtain ⟨segments⟩ := a
  have h : (segments.map fun p => Node.property p.1 (.string p.2)).flatMap Node.itemProperties =
      segments.map fun p => (p.1, Node.string p.2) := by
    induction segments with
    | nil => rfl
    | cons p rest ih => simpa [Node.itemProperties] using ih
  simp [ofNode, toNode, Node.properties, h, Node.asString, Function.comp_def]

end Address

end ManagementModel
