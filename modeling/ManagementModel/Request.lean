import ManagementModel.Endpoint
import ManagementModel.Operation
import ManagementModel.Text.Percent
import ManagementModel.Wire.Writer

/-!
# ManagementModel — requests

A description of a resource is read with GET from an address of its own, which spells the address
of the resource and the parameters of the operation, so that descriptions can be cached on the way.
Any other operation is posted in its transport form.
-/

namespace ManagementModel

inductive Method where
  | get
  | post
deriving DecidableEq, Repr

def Method.text : Method → String
  | get => "GET"
  | post => "POST"

/-- The media type of transport forms. -/
def mediaType : String := "application/dmr-encoded"

structure Request where
  method : Method
  url : String
  body : Option String
  headers : List (String × String) := [("accept", mediaType), ("content-type", mediaType)]
deriving DecidableEq, Repr

namespace Operation

/-- The name of the operation that reads a description. -/
def descriptionName : String := "read-resource-description"

def isDescriptionRead (op : Operation) : Bool :=
  op.name == descriptionName

/-- The parameters of a description that its address spells, in this order. -/
def descriptionParameters : List String :=
  ["recursive", "proxies", "operations", "inherited", "locale"]

/-- The ASCII characters that are encoded in a segment of a path. -/
def reservedInPath (c : Char) : Bool :=
  Text.Percent.isControl c ||
    [' ', '"', '#', '%', '/', '<', '>', '?', '\x60', '\x7b', '\x7d'].contains c

/-- The ASCII characters that are encoded in a value of a query. -/
def reservedInQuery (c : Char) : Bool :=
  Text.Percent.isControl c || [' ', '"', '#', '%', '&', '+', '<', '=', '>'].contains c

/-- A segment of a path behind a slash. -/
def pathSegment (s : String) : List Char :=
  '/' :: Text.Percent.encode reservedInPath s.toList

/-- The names and values of an address, one after the other. -/
def descriptionPath (address : Address) : List Char :=
  address.segments.flatMap fun p => pathSegment p.1 ++ pathSegment p.2

/-- The value of a parameter in a query, if the operation has it. -/
def queryParameter (op : Operation) (name : String) : List Char :=
  match op.parameter? name with
  | some value =>
    '&' :: name.toList ++ '=' :: Text.Percent.encode reservedInQuery value.asString.toList
  | none => []

/-- What follows the endpoint in the address of a description. -/
def descriptionSuffix (op : Operation) : List Char :=
  descriptionPath op.address ++ "?operation=resource-description".toList ++
    descriptionParameters.flatMap op.queryParameter

/-- The request of an operation. A description is asked for without the slashes at the end of the
endpoint; all else is posted to the endpoint as it is. -/
def request (op : Operation) (endpoints : Endpoints) : Except Wire.EncodeError Request :=
  if op.isDescriptionRead then
    .ok { method := .get
          url := withoutSlashes endpoints.operations ++ String.ofList op.descriptionSuffix
          body := none }
  else do
    let body ← op.node.toBase64
    return { method := .post, url := endpoints.operations, body := some body }

end Operation

end ManagementModel
