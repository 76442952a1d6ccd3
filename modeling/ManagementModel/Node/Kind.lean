/-!
# ManagementModel — kinds of values

Every value is of one of fourteen kinds. A kind has a name, which descriptions of attributes print,
and a tag, the byte that announces a value of that kind in the binary form. Values of the two kinds
of big numbers are named by descriptions but never carried.
-/

namespace ManagementModel

inductive Kind where
  | bigDecimal
  | bigInteger
  | boolean
  | bytes
  | double
  | expression
  | int
  | list
  | long
  | object
  | property
  | string
  | type
  | undefined
deriving DecidableEq, Repr

namespace Kind

/-- All kinds, in the order of their names. -/
def all : List Kind :=
  [bigDecimal, bigInteger, boolean, bytes, double, expression, int, list, long, object, property,
    string, type, undefined]

/-- The tag as a letter. -/
def letter : Kind → Char
  | bigDecimal => 'd'
  | bigInteger => 'i'
  | boolean => 'Z'
  | bytes => 'b'
  | double => 'D'
  | expression => 'e'
  | int => 'I'
  | list => 'l'
  | long => 'J'
  | object => 'o'
  | property => 'p'
  | string => 's'
  | type => 't'
  | undefined => 'u'

/-- The byte that announces a value of this kind. -/
def tag (k : Kind) : UInt8 :=
  k.letter.toNat.toUInt8

/-- The kind that a byte announces. -/
def ofTag? (b : UInt8) : Option Kind :=
  all.find? (·.tag == b)

/-- The name that descriptions print. -/
def name : Kind → String
  | bigDecimal => "BIG_DECIMAL"
  | bigInteger => "BIG_INTEGER"
  | boolean => "BOOLEAN"
  | bytes => "BYTES"
  | double => "DOUBLE"
  | expression => "EXPRESSION"
  | int => "INT"
  | list => "LIST"
  | long => "LONG"
  | object => "OBJECT"
  | property => "PROPERTY"
  | string => "STRING"
  | type => "TYPE"
  | undefined => "UNDEFINED"

def ofName? (s : String) : Option Kind :=
  all.find? (·.name == s)

/-- Values of these kinds hold other values. -/
def isContainer : Kind → Bool
  | list | object | property => true
  | _ => false

@[simp] theorem ofTag?_tag (k : Kind) : ofTag? k.tag = some k := by
  cases k <;> rfl

theorem tag_of_ofTag? {b : UInt8} {k : Kind} (h : ofTag? b = some k) : k.tag = b := by
  simpa using List.find?_some h

end Kind

end ManagementModel
