import ManagementModel.Operation
import ManagementModel.Request
import ManagementModel.Wire.Reader

/-!
# ManagementModel — reading replies

A reply has a status and a body. The body of an answer to an operation is a transport form, and
that of an answer to an upload JSON. Bodies become trees with an outcome: a description is wrapped
as a success, other answers to operations are taken as they are, and an uploaded file's answer is
wrapped only if it has no outcome of its own. A body that cannot be read becomes a failure.
-/

namespace ManagementModel

/-- A reply as it was received. -/
structure Reply where
  status : Nat
  body : String
deriving DecidableEq, Repr

namespace Reply

/-- A successful reply that carries a result, unless it is undefined. -/
def success (result : Node) : Node :=
  .object (("outcome", .string "success") ::
    if result.isDefined then [("result", result)] else [])

/-- The reply that stands for a body that cannot be read. -/
def unreadable (reason : String) : Node :=
  .object [("outcome", .string "failed"),
    ("failure-description", .string ("Failed to decode response: " ++ reason))]

/-- The tree of an answer to an operation that was sent with a method. -/
def ofOperationBody (method : Method) (body : String) : Node :=
  match Node.ofBase64 body with
  | .ok node => if method = .get then success node else node
  | .error e => unreadable e.message

/-- The tree of an answer to an upload. -/
def ofUploadBody (body : String) : Node :=
  if Text.isBlank body then success .undefined
  else
    match Node.ofJsonText body with
    | .ok node => if node.has "outcome" then node else success node
    | .error e => unreadable e.payloadMessage

end Reply

end ManagementModel
