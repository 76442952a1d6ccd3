import ManagementModel.Node.Json

/-!
# ManagementModel — scalar readings of a node

What a node says when a text, a truth value or a whole number is wanted. Conversions are by kind:
texts are read as numbers and truth values, doubles are cut to whole numbers, and anything can be
shown as a text.
-/

namespace ManagementModel.Node

/-- Doubles shown as text never have an exponent, and whole ones no point. -/
def textLayout : Decimal.Layout := ⟨false, none, false⟩

/-- The text of a double. -/
def doubleText (bits : UInt64) : String :=
  if Binary64.isNaN bits then "NaN"
  else if Binary64.isFinite bits then String.ofList (Decimal.doubleChars textLayout bits)
  else if Binary64.isNegative bits then "-inf"
  else "inf"

/-- The text of a string or an expression. -/
def text? : Node → Option String
  | string text => some text
  | expression text => some text
  | _ => none

/-- Any node as a text; containers and bytes are shown as JSON. -/
def asString : Node → String
  | undefined => "undefined"
  | boolean true => "true"
  | boolean false => "false"
  | int value => String.ofList (Decimal.intChars value.toInt)
  | long value => String.ofList (Decimal.intChars value.toInt)
  | double bits => doubleText bits
  | string text => text
  | expression text => text
  | type kind => kind.name
  | node => node.compactJson

def bool? : Node → Option Bool
  | boolean value => some value
  | string text =>
    if text = "true" then some true else if text = "false" then some false else none
  | int value => some (value != 0)
  | long value => some (value != 0)
  | _ => none

def long? : Node → Option Int64
  | int value => some value.toInt64
  | long value => some value
  | double bits => some (Binary64.toInt64 bits)
  | string text => Decimal.int64? text
  | _ => none

def int? (node : Node) : Option Int32 := do
  let n ← node.long?
  if -0x80000000 ≤ n.toInt ∧ n.toInt < 0x80000000 then some n.toInt32 else none

/-! ## Replies -/

/-- A reply reports a failure when its outcome reads `failed`. -/
def isFailure (node : Node) : Bool :=
  (node.get "outcome").text? == some "failed"

/-- What a failed reply says about its failure. -/
def failureDescription (node : Node) : String :=
  let description := node.get "failure-description"
  if description.isDefined then description.asString else "No failure-description provided"

/-- What a reply carries. -/
def result (node : Node) : Node :=
  node.get "result"

end ManagementModel.Node
