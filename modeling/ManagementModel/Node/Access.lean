import ManagementModel.Node.Basic

/-!
# ManagementModel — reading and editing a tree by name

Reading a name that is not there gives the undefined value and changes nothing. Editing makes what
it needs: a node that is no object becomes an empty object before a field of it is edited, and one
that is no list an empty list before an item is added.

A property reads like an object with one field. Editing does not treat it so.
-/

namespace ManagementModel.Node

/-- The child of a name. -/
def get (name : String) : Node → Node
  | object fields => (Fields.get? name fields).getD undefined
  | property n value => if n = name then value else undefined
  | _ => undefined

/-- The node at the end of a path of names. -/
def getPath (path : List String) (node : Node) : Node :=
  path.foldl (fun n name => n.get name) node

/-- Whether a child of the name is there, defined or not. -/
def has (name : String) : Node → Bool
  | object fields => Fields.contains name fields
  | property n _ => n = name
  | _ => false

/-- Whether a defined child of the name is there. -/
def hasDefined (name : String) (node : Node) : Bool :=
  node.has name && (node.get name).isDefined

def names : Node → List String
  | object fields => Fields.names fields
  | property name _ => [name]
  | _ => []

/-- The fields that an edit starts from: those of an object, none of anything else. -/
def editable : Node → Fields Node
  | object fields => fields
  | _ => []

/-- The field of an object that an edit would find under a name. -/
def field (node : Node) (name : String) : Node :=
  (Fields.get? name node.editable).getD undefined

/-- Edits the child of a name; a missing child is undefined before the edit. -/
def modify (name : String) (f : Node → Node) (node : Node) : Node :=
  object (Fields.alter name undefined f node.editable)

/-- Edits the node at the end of a path, making the nodes on the way. -/
def modifyPath (path : List String) (f : Node → Node) (node : Node) : Node :=
  match path with
  | [] => f node
  | name :: rest => node.modify name (modifyPath rest f)

/-- Writes the child of a name. -/
def set (node : Node) (name : String) (value : Node) : Node :=
  node.modify name fun _ => value

/-- Writes the node at the end of a path. -/
def setPath (node : Node) (path : List String) (value : Node) : Node :=
  node.modifyPath path fun _ => value

/-- Appends an item. -/
def add (node item : Node) : Node :=
  match node with
  | list items => list (items ++ [item])
  | _ => list [item]

/-- The items of a list, none of anything else. -/
def items : Node → List Node
  | list items => items
  | _ => []

/-- The named values that an item of a list stands for. -/
def itemProperties : Node → List (String × Node)
  | property name value => [(name, value)]
  | object fields => fields
  | _ => []

/-- The node as a sequence of named values: the fields of an object, a property by itself, or those
of the items of a list. -/
def properties : Node → List (String × Node)
  | list items => items.flatMap itemProperties
  | node => node.itemProperties

end ManagementModel.Node
