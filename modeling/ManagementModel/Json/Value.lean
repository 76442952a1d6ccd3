import ManagementModel.Fields
import ManagementModel.Decimal.Binary64

/-!
# ManagementModel — JSON values

A number of a document is a whole number in the range of 64 bit words, with or without a sign, or
else a finite double. The members of an object keep their arrival order.
-/

namespace ManagementModel

namespace Json

inductive Number where
  | whole (n : Int) (inRange : -0x8000000000000000 ≤ n ∧ n < 0x10000000000000000)
  | real (bits : UInt64) (finite : Binary64.isFinite bits = true)
deriving Repr

end Json

inductive Json where
  | null
  | bool (value : Bool)
  | number (n : Json.Number)
  | string (text : String)
  | array (items : List Json)
  | object (members : List (String × Json))
deriving Repr

namespace Json

instance : Inhabited Json := ⟨.null⟩

/-- The number of a double, which has to be finite. -/
def ofDouble? (bits : UInt64) : Option Json :=
  if h : Binary64.isFinite bits = true then some (.number (.real bits h)) else none

/-- A whole number; one outside the range of words has no form of its own. -/
def ofInt? (n : Int) : Option Json :=
  if h : -0x8000000000000000 ≤ n ∧ n < 0x10000000000000000 then some (.number (.whole n h))
  else none

/-- A whole number that a word without a sign holds. -/
def ofUInt64 (n : UInt64) : Json :=
  .number (.whole n.toNat (by have := n.toNat_lt; omega))

/-- A whole number that a word with a sign holds. -/
def ofInt64 (n : Int64) : Json :=
  .number (.whole n.toInt (by have := n.le_toInt; have := n.toInt_lt; omega))

/-- An object with one member. -/
def single (name : String) (value : Json) : Json :=
  .object [(name, value)]

mutual

/-- The largest number of arrays and objects on a path from the root. -/
def nesting : Json → Nat
  | array items => nestingItems items + 1
  | object members => nestingMembers members + 1
  | _ => 0

def nestingItems : List Json → Nat
  | [] => 0
  | item :: rest => max item.nesting (nestingItems rest)

def nestingMembers : List (String × Json) → Nat
  | [] => 0
  | (_, value) :: rest => max value.nesting (nestingMembers rest)

end

end Json

end ManagementModel
