import ManagementModel.Node.Kind
import ManagementModel.Text.Base64

/-!
# ManagementModel — what can be wrong with a payload

Causes and texts of the errors of the binary form, in both directions, and of its base64 transport
form.
-/

namespace ManagementModel.Wire

/-- The deepest nesting of lists, objects and properties that is read. -/
def maxNesting : Nat := 256

/-- The largest number of encoded bytes of a text. -/
def maxTextLength : Nat := 65535

/-- The largest number of bytes, items or fields of one value. -/
def maxCount : Nat := 2147483647

/-- Why a tree cannot be written. -/
inductive EncodeError where
  /-- A text takes more bytes than its length field can count. -/
  | textTooLong (length : Nat)
  /-- A value has more parts than its count field can hold. -/
  | tooManyParts
deriving DecidableEq, Repr

def EncodeError.message : EncodeError → String
  | .textTooLong length =>
    s!"string of {length} encoded bytes exceeds the {maxTextLength} byte limit"
  | .tooManyParts => "I/O error: collection too large"

/-- Why bytes are no value. -/
inductive DecodeError where
  /-- The input ends inside a tag, a number or a length. -/
  | endOfInput
  /-- A byte announces no kind. -/
  | unknownTag (tag : UInt8)
  /-- Values of the kind are never carried. -/
  | unsupported (kind : Kind)
  | negativeLength (length : Int)
  /-- A declared length needs more bytes than are left. -/
  | lengthExceedsInput (length remaining : Nat)
  | tooDeep (limit : Nat)
  | malformedText
  /-- The value ends before the input does. -/
  | trailingBytes (count : Nat)
deriving DecidableEq, Repr

/-- A byte as two hexadecimal digits. -/
def hexByte (b : UInt8) : String :=
  String.ofList [Nat.digitChar (b.toNat / 16), Nat.digitChar (b.toNat % 16)]

def DecodeError.message : DecodeError → String
  | .endOfInput => "I/O error: failed to fill whole buffer"
  | .unknownTag tag => "unknown type tag 0x" ++ hexByte tag
  | .unsupported kind => "unsupported model type " ++ kind.name
  | .negativeLength length => s!"negative length {length}"
  | .lengthExceedsInput length remaining =>
    s!"declared length {length} exceeds the {remaining} remaining bytes"
  | .tooDeep limit => s!"nesting deeper than {limit} levels"
  | .malformedText => "malformed modified UTF-8 string"
  | .trailingBytes count => s!"{count} trailing bytes after value"

/-- Why a base64 payload is no value. -/
inductive PayloadError where
  | notBase64 (error : Text.Base64.DecodeError)
  | notValue (error : DecodeError)
deriving DecidableEq, Repr

def PayloadError.message : PayloadError → String
  | .notBase64 error => "invalid base64 payload: " ++ error.message
  | .notValue error => error.message

end ManagementModel.Wire
