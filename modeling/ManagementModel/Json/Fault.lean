import ManagementModel.Json.Printer
import ManagementModel.Text.Quoted
import ManagementModel.Text.Utf8

/-!
# ManagementModel — where and why a JSON text is refused

A reader reports a fault with the number of bytes behind its position; line and column follow from
the text. Lines count from one. The column is the number of bytes of the line up to the position,
so that a fault found in front of a byte is reported on that byte, and one found behind it too.
-/

namespace ManagementModel.Json

/-- What stands in a document where something else was expected. -/
inductive Found where
  | null
  | boolean (value : Bool)
  | integer (value : Int)
  | double (bits : UInt64)
  | text (value : String)
  | sequence
  | map
deriving DecidableEq, Repr

def Found.message : Found → String
  | null => "null"
  | boolean true => "boolean \x60true\x60"
  | boolean false => "boolean \x60false\x60"
  | integer n => s!"integer \x60{String.ofList (Decimal.intChars n)}\x60"
  | double bits =>
    s!"floating point \x60{String.ofList (Decimal.doubleChars doubleLayout bits)}\x60"
  | text s => s!"string {Text.quoted s}"
  | sequence => "sequence"
  | map => "map"

/-- Why a text is no document, or not one of the shape that is read. -/
inductive Cause where
  | eofValue
  | eofString
  | eofList
  | eofObject
  | expectedValue
  | expectedIdent
  | expectedColon
  | expectedListCommaOrEnd
  | expectedObjectCommaOrEnd
  | keyMustBeString
  | trailingComma
  | trailingCharacters
  | invalidEscape
  | invalidNumber
  | numberOutOfRange
  | controlCharacter
  | loneSurrogate
  | endOfHexEscape
  | recursionLimit
  /-- The value is not of the type that is read. -/
  | unexpectedType (found : Found) (expected : String)
  /-- The value is of the type that is read, but out of its range. -/
  | unexpectedValue (found : Found) (expected : String)
  | repeatedField (name : String)
deriving DecidableEq, Repr

def Cause.message : Cause → String
  | eofValue => "EOF while parsing a value"
  | eofString => "EOF while parsing a string"
  | eofList => "EOF while parsing a list"
  | eofObject => "EOF while parsing an object"
  | expectedValue => "expected value"
  | expectedIdent => "expected ident"
  | expectedColon => "expected \x60:\x60"
  | expectedListCommaOrEnd => "expected \x60,\x60 or \x60]\x60"
  | expectedObjectCommaOrEnd => "expected \x60,\x60 or \x60\x7d\x60"
  | keyMustBeString => "key must be a string"
  | trailingComma => "trailing comma"
  | trailingCharacters => "trailing characters"
  | invalidEscape => "invalid escape"
  | invalidNumber => "invalid number"
  | numberOutOfRange => "number out of range"
  | controlCharacter => "control character (\\u0000-\\u001F) found while parsing a string"
  | loneSurrogate => "lone leading surrogate in hex escape"
  | endOfHexEscape => "unexpected end of hex escape"
  | recursionLimit => "recursion limit exceeded"
  | unexpectedType found expected => s!"invalid type: {found.message}, expected {expected}"
  | unexpectedValue found expected => s!"invalid value: {found.message}, expected {expected}"
  | repeatedField name => s!"duplicate field \x60{name}\x60"

/-- A fault of a reader: the cause, and how many bytes of the text are behind its position. -/
structure Fault where
  cause : Cause
  behind : Nat
deriving DecidableEq, Repr

/-- A fault as it is reported. -/
structure SyntaxError where
  cause : Cause
  line : Nat
  column : Nat
deriving DecidableEq, Repr

def SyntaxError.message (e : SyntaxError) : String :=
  s!"{e.cause.message} at line {e.line} column {e.column}"

/-- Line and column behind the first `count` bytes of a text, from the given line and column on. -/
def position (line column count : Nat) : List UInt8 → Nat × Nat
  | [] => (line, column)
  | b :: rest =>
    match count with
    | 0 => (line, column)
    | count + 1 =>
      if b == 10 then position (line + 1) 0 count rest else position line (column + 1) count rest

/-- Finds the line and column of a fault in its text. -/
def Fault.locate (text : String) (fault : Fault) : SyntaxError :=
  let bytes := Text.Utf8.bytes text
  let (line, column) := position 1 0 (bytes.length - fault.behind) bytes
  ⟨fault.cause, line, column⟩

end ManagementModel.Json
