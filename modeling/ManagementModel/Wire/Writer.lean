import ManagementModel.Node.Basic
import ManagementModel.Text.ModifiedUtf8
import ManagementModel.Wire.Error

/-!
# ManagementModel — writing the binary form

A value is its tag and then its data: numbers in big endian order, texts in modified UTF-8 behind a
length of two bytes, and the parts of a container one after the other behind a count of four bytes.
A tree that cannot be written fails with the first fault in the order of writing.
-/

namespace ManagementModel

namespace Wire

/-- The lowest `count` bytes of a number, the highest of them first. -/
def bigEndian (count n : Nat) : List UInt8 :=
  match count with
  | 0 => []
  | count + 1 => (n / Nat.pow 256 count % 256).toUInt8 :: bigEndian count n

/-- A text behind its length. -/
def writeText (s : String) : Except EncodeError (List UInt8) :=
  let encoded := Text.ModifiedUtf8.encode s
  if encoded.length ≤ maxTextLength then .ok (bigEndian 2 encoded.length ++ encoded)
  else .error (.textTooLong encoded.length)

/-- The number of parts of a value. -/
def writeCount (n : Nat) : Except EncodeError (List UInt8) :=
  if n ≤ maxCount then .ok (bigEndian 4 n) else .error .tooManyParts

mutual

/-- The bytes of a tree. -/
def write : Node → Except EncodeError (List UInt8)
  | .undefined => .ok [Kind.undefined.tag]
  | .boolean value => .ok [Kind.boolean.tag, if value then 1 else 0]
  | .int value => .ok (Kind.int.tag :: bigEndian 4 value.toUInt32.toNat)
  | .long value => .ok (Kind.long.tag :: bigEndian 8 value.toUInt64.toNat)
  | .double bits => .ok (Kind.double.tag :: bigEndian 8 bits.toNat)
  | .string text => do
    let encoded ← writeText text
    return Kind.string.tag :: encoded
  | .expression text => do
    let encoded ← writeText text
    return Kind.expression.tag :: encoded
  | .bytes data => do
    let count ← writeCount data.length
    return Kind.bytes.tag :: (count ++ data)
  | .type kind => .ok [Kind.type.tag, kind.tag]
  | .list items => do
    let count ← writeCount items.length
    let parts ← writeItems items
    return Kind.list.tag :: (count ++ parts)
  | .object fields => do
    let count ← writeCount fields.length
    let parts ← writeFields fields
    return Kind.object.tag :: (count ++ parts)
  | .property name value => do
    let encoded ← writeText name
    let part ← write value
    return Kind.property.tag :: (encoded ++ part)

/-- The bytes of some items. -/
def writeItems : List Node → Except EncodeError (List UInt8)
  | [] => .ok []
  | item :: rest => do
    let part ← write item
    let parts ← writeItems rest
    return part ++ parts

/-- The bytes of some fields, each name before its value. -/
def writeFields : List (String × Node) → Except EncodeError (List UInt8)
  | [] => .ok []
  | (name, value) :: rest => do
    let encoded ← writeText name
    let part ← write value
    let parts ← writeFields rest
    return encoded ++ part ++ parts

end

end Wire

/-- The binary form of a tree. -/
def Node.toBytes (node : Node) : Except Wire.EncodeError (List UInt8) :=
  Wire.write node

/-- The transport form: base64 of the binary form. -/
def Node.toBase64 (node : Node) : Except Wire.EncodeError String :=
  node.toBytes.map Text.Base64.encode

end ManagementModel
