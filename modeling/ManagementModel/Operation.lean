import ManagementModel.Address
import ManagementModel.Text.Blank

/-!
# ManagementModel — operations

An operation is a tree with the name of what to do under `operation` and the resource to do it to
under `address`; its other fields are parameters. The tree is kept as it came, since its form is
what is sent.
-/

namespace ManagementModel

/-- Why a tree is no operation. -/
inductive OperationError where
  | missingField (name : String)
  /-- The name is no text, or a blank one. -/
  | invalidName
deriving DecidableEq, Repr

def OperationError.message : OperationError → String
  | .missingField name => "operation is missing the '" ++ name ++ "' field"
  | .invalidName => "operation name must be a non-empty string"

structure Operation where
  node : Node
deriving Repr

namespace Operation

/-- The field that holds the name. -/
def nameField : String := "operation"

/-- The field that holds the address. -/
def addressField : String := "address"

/-- Fields that no parameter may use. -/
def isReserved (name : String) : Bool :=
  name == nameField || name == addressField

/-- Accepts a tree that has an address and a name that is not blank. -/
def ofNode (node : Node) : Except OperationError Operation :=
  if !node.has addressField then .error (.missingField addressField)
  else if !node.has nameField then .error (.missingField nameField)
  else
    match (node.get nameField).text? with
    | some name => if Text.isBlank name then .error .invalidName else .ok ⟨node⟩
    | none => .error .invalidName

def name (op : Operation) : String :=
  ((op.node.get nameField).text?).getD ""

def address (op : Operation) : Address :=
  Address.ofNode (op.node.get addressField)

/-- The value of a field, reserved ones included. -/
def parameter? (op : Operation) (name : String) : Option Node :=
  if op.node.has name then some (op.node.get name) else none

/-- The form that messages show. -/
def text (op : Operation) : String :=
  op.address.text ++ ":" ++ op.name

/-- Writes a parameter into the fields; a reserved name leaves them as they are. -/
def addParameter (fields : Fields Node) (p : String × Node) : Fields Node :=
  if isReserved p.1 then fields else Fields.insert p.1 p.2 fields

/-- The operation of a name on a resource. A parameter that is given again keeps its first position
and takes the last value; parameters with a reserved name do not count. -/
def build (address : Address) (name : String) (parameters : List (String × Node)) : Operation :=
  ⟨.object (parameters.foldl addParameter
    [(nameField, .string name), (addressField, address.toNode)])⟩

end Operation

end ManagementModel
