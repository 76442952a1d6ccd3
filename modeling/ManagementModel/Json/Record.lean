import ManagementModel.Json.Skip

/-!
# ManagementModel — documents of a known shape

Readers of values whose type is known beforehand, and of records. A record is an object with named
fields, or a list of the fields in their order. Fields that are missing keep the value they had,
members that are no field are passed over, and a field may not come twice.

A value of another type is a fault. It is reported behind the value, or in front of its bracket if
the value is a container.
-/

namespace ManagementModel.Json

namespace Reader

/-- What a value without parts is. -/
def foundScalar : Json → Found
  | .null => .null
  | .bool b => .boolean b
  | .number (.whole n _) => .integer n
  | .number (.real bits _) => .double bits
  | .string s => .text s
  | .array _ => .sequence
  | .object _ => .map

/-- Refuses a value, given the character it begins with. A value that is not well formed is refused
for that. -/
def unexpected {α : Type} (fuel : Nat) (expected : String) (c : Char) (rest : List Char) :
    Except Fault (α × List Char) :=
  if c == '[' then failBefore (.unexpectedType .sequence expected) (c :: rest)
  else if c == '\x7b' then failBefore (.unexpectedType .map expected) (c :: rest)
  else
    match scalar fuel c rest with
    | .ok (v, rest) => failBefore (.unexpectedType (foundScalar v) expected) rest
    | .error fault => .error fault

/-! ## Values -/

def text (fuel : Nat) : Reader String := fun s =>
  match skipBlanks s with
  | [] => failAt .eofValue []
  | c :: rest =>
    if c == '"' then stringBody fuel rest else unexpected fuel "a string" c rest

def flag (fuel : Nat) : Reader Bool := fun s =>
  match skipBlanks s with
  | [] => failAt .eofValue []
  | c :: rest =>
    if c == 't' then literal true ['r', 'u', 'e'] rest
    else if c == 'f' then literal false ['a', 'l', 's', 'e'] rest
    else unexpected fuel "a boolean" c rest

/-- What a document calls a word of 64 bits without a sign. -/
def unsignedType : String := "u64"

/-- The word that a number is, if it is one. -/
def wordOf : Number → Reader UInt64
  | .whole n _ => fun s =>
    if 0 ≤ n then .ok (n.toNat.toUInt64, s)
    else failBefore (.unexpectedValue (.integer n) unsignedType) s
  | .real bits _ => failBefore (.unexpectedType (.double bits) unsignedType)

def unsigned (fuel : Nat) : Reader UInt64 := fun s =>
  match skipBlanks s with
  | [] => failAt .eofValue []
  | c :: rest =>
    if c == '-' then (number true >>= wordOf) rest
    else if (Decimal.digit? c).isSome then (number false >>= wordOf) (c :: rest)
    else unexpected fuel unsignedType c rest

/-- A value that may be null. -/
def optional {α : Type} (read : Reader α) : Reader (Option α) := fun s =>
  match skipBlanks s with
  | [] => (some <$> read) []
  | c :: rest =>
    if c == 'n' then literal none ['u', 'l', 'l'] rest else (some <$> read) (c :: rest)

/-! ## Records -/

/-- A field of a record: its name, and how its value is read into the record. -/
structure Field (σ : Type) where
  name : String
  read : (fuel : Nat) → σ → Reader σ

/-- The end of a list behind its last field; its bracket is taken. -/
def endOfItems : Reader Unit := fun s =>
  match skipBlanks s with
  | [] => failAt .eofList []
  | c :: rest =>
    if c == ']' then .ok ((), rest)
    else if c == ',' then
      match skipBlanks rest with
      | [] => failAt .trailingCharacters []
      | d :: tail =>
        failAt (if d == ']' then .trailingComma else .trailingCharacters) (d :: tail)
    else failAt .trailingCharacters (c :: rest)

/-- The fields of a list whose bracket has been taken. -/
def fieldItems {σ : Type} (fuel : Nat) (isFirst : Bool) (record : σ) :
    List (Field σ) → Reader σ
  | [] => do
    endOfItems
    return record
  | field :: fields => do
    if ← nextItem isFirst then
      let record ← field.read fuel record
      fieldItems fuel false record fields
    else return record

/-- The fault of a field that comes again. It is reported behind the name, or behind the end of the
object if that follows. -/
def repeatedField {α : Type} (name : String) : Reader α := fun s =>
  match skipBlanks s with
  | '\x7d' :: rest => failBefore (.repeatedField name) rest
  | rest => failBefore (.repeatedField name) rest

/-- The fields of an object whose brace has been taken; `seen` are the names that came before. -/
def fieldMembers {σ : Type} (fields : List (Field σ)) (bound : Nat) (seen : List String)
    (isFirst : Bool) (record : σ) : (fuel : Nat) → Reader σ
  | 0 => fun s => failAt .eofObject s
  | fuel + 1 => do
    if ← nextMember isFirst then
      let name ← stringBody bound
      match fields.find? (·.name == name) with
      | none =>
        colon
        skipValue bound
        fieldMembers fields bound seen false record fuel
      | some field =>
        if seen.contains name then repeatedField name
        else
          colon
          let record ← field.read bound record
          fieldMembers fields bound (name :: seen) false record fuel
    else return record

/-- A record that begins with the given values. -/
def record {σ : Type} (expected : String) (fields : List (Field σ)) (start : σ) (fuel : Nat) :
    Reader σ := fun s =>
  match skipBlanks s with
  | [] => failAt .eofValue []
  | c :: rest =>
    if c == '[' then fieldItems fuel true start fields rest
    else if c == '\x7b' then fieldMembers fields fuel [] true start fuel rest
    else unexpected fuel expected c rest

end Reader

end ManagementModel.Json
