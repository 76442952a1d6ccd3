import ManagementModel.Node.Basic
import ManagementModel.Text.Blank
import ManagementModel.Text.ModifiedUtf8
import ManagementModel.Wire.Error

/-!
# ManagementModel — reading the binary form

A reader takes bytes from the front of the input and leaves the rest. Declared lengths are compared
with what is left before anything is read for them: an item takes at least one byte, a field at
least three. The reader of a tree is structural on the number of levels that may still be opened,
and the readers of its parts take the reader of one part as a parameter.
-/

namespace ManagementModel

namespace Wire

/-- Takes bytes from the front of the input. -/
abbrev Reader (α : Type) := StateT (List UInt8) (Except DecodeError) α

/-- The next byte. -/
def byte : Reader UInt8 := fun input =>
  match input with
  | b :: rest => .ok (b, rest)
  | [] => .error .endOfInput

/-- The number that the next `count` bytes spell, the highest byte first. -/
def number (count : Nat) : Reader Nat := fun input =>
  let bytes := input.take count
  if bytes.length = count then
    .ok (bytes.foldl (fun n b => n * 256 + b.toNat) 0, input.drop count)
  else .error .endOfInput

/-- Refuses a declared length that exceeds what is left. -/
def require (length : Nat) : Reader Unit := fun input =>
  if (input.take length).length = length then .ok ((), input)
  else .error (.lengthExceedsInput length input.length)

/-- The next `length` bytes. -/
def take (length : Nat) : Reader (List UInt8) := do
  require length
  fun input => .ok (input.take length, input.drop length)

/-- A count of four bytes, which may not be negative. -/
def count : Reader Nat := do
  let n ← number 4
  if n ≤ maxCount then return n else throw (.negativeLength ((n : Int) - 4294967296))

/-- A text behind its length. -/
def text : Reader String := do
  let length ← number 2
  let encoded ← take length
  match Text.ModifiedUtf8.decode? encoded with
  | some s => return s
  | none => throw .malformedText

/-- The kind that the next byte announces. -/
def kind : Reader Kind := do
  let tag ← byte
  match Kind.ofTag? tag with
  | some k => return k
  | none => throw (.unknownTag tag)

/-- Reads `n` items behind the reversed `acc`. -/
def itemsOnto (item : Reader Node) (acc : List Node) : (n : Nat) → Reader (List Node)
  | 0 => return acc.reverse
  | n + 1 => do
    let node ← item
    itemsOnto item (node :: acc) n

/-- Reads `n` fields into `acc`; a name that comes again keeps its first position. -/
def fieldsInto (item : Reader Node) (acc : Fields Node) : (n : Nat) → Reader (Fields Node)
  | 0 => return acc
  | n + 1 => do
    let name ← text
    let node ← item
    fieldsInto item (Fields.insert name node acc) n

/-- A container whose parts are read by `inner`, which is missing where no level is left. -/
def container (inner : Option (Reader Node)) (read : Reader Node → Reader Node) : Reader Node :=
  match inner with
  | some item => read item
  | none => throw (.tooDeep maxNesting)

/-- The data of a value of the kind. -/
def data (inner : Option (Reader Node)) : Kind → Reader Node
  | .undefined => return .undefined
  | .boolean => do return .boolean ((← byte) != 0)
  | .int => do return .int (← number 4).toUInt32.toInt32
  | .long => do return .long (← number 8).toUInt64.toInt64
  | .double => do return .double (← number 8).toUInt64
  | .string => do return .string (← text)
  | .expression => do return .expression (← text)
  | .bytes => do return .bytes (← take (← count))
  | .type => do return .type (← kind)
  | .list => container inner fun item => do
    let n ← count
    require n
    return .list (← itemsOnto item [] n)
  | .object => container inner fun item => do
    let n ← count
    require (n * 3)
    return .object (← fieldsInto item [] n)
  | .property => container inner fun item => do
    let name ← text
    return .property name (← item)
  | k@(.bigDecimal) | k@(.bigInteger) => throw (.unsupported k)

/-- A value that opens at most `levels` levels of containers. -/
def value : (levels : Nat) → Reader Node
  | 0 => do data none (← kind)
  | levels + 1 => do data (some (value levels)) (← kind)

end Wire

/-- The tree whose binary form is the whole input. -/
def Node.ofBytes (input : List UInt8) : Except Wire.DecodeError Node := do
  let (node, rest) ← Wire.value Wire.maxNesting input
  if rest.isEmpty then return node else throw (.trailingBytes rest.length)

/-- The tree of a transport form; blanks around it do not count. -/
def Node.ofBase64 (payload : String) : Except Wire.PayloadError Node := do
  let bytes ← (Text.Base64.decode (Text.trim payload)).mapError .notBase64
  (Node.ofBytes bytes).mapError .notValue

end ManagementModel
