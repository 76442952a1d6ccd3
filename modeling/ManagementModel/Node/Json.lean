import ManagementModel.Json.Printer
import ManagementModel.Json.Reader
import ManagementModel.Node.Access
import ManagementModel.Text.Base64

/-!
# ManagementModel — trees and JSON

Kinds that JSON lacks are objects with one member of a reserved name: expressions, bytes and types.
A property is an object with its name. A double that is no number, or not finite, is null.

Reading gives expressions and bytes back, a whole number the smallest kind that holds it, and a
number beyond the range of words with a sign a double.
-/

namespace ManagementModel

namespace Node

def expressionName : String := "EXPRESSION_VALUE"

def typeName : String := "TYPE_MODEL_VALUE"

def bytesName : String := "BYTES_VALUE"

mutual

/-- The document that shows a tree. -/
def toJson : Node → Json
  | undefined => .null
  | boolean value => .bool value
  | int value => .ofInt64 value.toInt64
  | long value => .ofInt64 value
  | double bits => (Json.ofDouble? bits).getD .null
  | string text => .string text
  | expression text => .single expressionName (.string text)
  | bytes data => .single bytesName (.string (Text.Base64.encode data))
  | type kind => .single typeName (.string kind.name)
  | list items => .array (toJsonItems items)
  | object fields => .object (toJsonMembers fields)
  | property name value => .single name value.toJson

def toJsonItems : List Node → List Json
  | [] => []
  | item :: rest => item.toJson :: toJsonItems rest

def toJsonMembers : List (String × Node) → List (String × Json)
  | [] => []
  | (name, value) :: rest => (name, value.toJson) :: toJsonMembers rest

end

/-- The node of a whole number. -/
def ofWhole (n : Int) : Node :=
  if -0x80000000 ≤ n ∧ n < 0x80000000 then int (Int32.ofInt n)
  else if n < 0x8000000000000000 then long (Int64.ofInt n)
  else double (Binary64.ofNat n.toNat).toUInt64

def ofNumber : Json.Number → Node
  | .whole n _ => ofWhole n
  | .real bits _ => double bits

/-- The value that an object with one member stands for, if its name is reserved. -/
def ofReserved? : List (String × Json) → Option Node
  | [(name, .string text)] =>
    if name = expressionName then some (expression text)
    else if name = bytesName then
      match Text.Base64.decode text with
      | .ok data => some (bytes data)
      | .error _ => none
    else none
  | _ => none

mutual

/-- The tree that a document shows. -/
def ofJson : Json → Node
  | .null => undefined
  | .bool value => boolean value
  | .number n => ofNumber n
  | .string text => string text
  | .array items => list (ofJsonItems items)
  | .object members => (ofReserved? members).getD (object (ofJsonMembers members))

def ofJsonItems : List Json → List Node
  | [] => []
  | item :: rest => ofJson item :: ofJsonItems rest

def ofJsonMembers : List (String × Json) → List (String × Node)
  | [] => []
  | (name, value) :: rest => (name, ofJson value) :: ofJsonMembers rest

end

/-- The JSON text of a tree on one line. -/
def compactJson (node : Node) : String :=
  node.toJson.compact

/-- The JSON text of a tree with indentation. -/
def prettyJson (node : Node) : String :=
  node.toJson.pretty

/-- The tree of a JSON text. -/
def ofJsonText (text : String) : Except Json.SyntaxError Node :=
  (Json.parse text).map ofJson

end Node

/-- The error text of a JSON text that is read as a payload. -/
def Json.SyntaxError.payloadMessage (e : Json.SyntaxError) : String :=
  "invalid JSON payload: " ++ e.message

end ManagementModel
