import ManagementModel.Fields
import ManagementModel.Node.Kind

/-!
# ManagementModel — the value tree

Operations and replies are trees of dynamically typed values. An object keeps its fields in arrival
order, which the binary form shows. A double is carried as the bits of its IEEE 754 form, so that
no payload of a NaN is lost on the way.

A property is a value with a name of its own; lists of properties spell resource addresses.
-/

namespace ManagementModel

inductive Node where
  | undefined
  | boolean (value : Bool)
  | int (value : Int32)
  | long (value : Int64)
  | double (bits : UInt64)
  | string (text : String)
  | expression (text : String)
  | bytes (data : List UInt8)
  | type (kind : Kind)
  | list (items : List Node)
  | object (fields : List (String × Node))
  | property (name : String) (value : Node)
deriving Repr

instance : Inhabited Node := ⟨.undefined⟩

namespace Node

def kind : Node → Kind
  | undefined => .undefined
  | boolean _ => .boolean
  | int _ => .int
  | long _ => .long
  | double _ => .double
  | string _ => .string
  | expression _ => .expression
  | bytes _ => .bytes
  | type _ => .type
  | list _ => .list
  | object _ => .object
  | property _ _ => .property

def isDefined : Node → Bool
  | undefined => false
  | _ => true

/-! ## Nesting -/

mutual

/-- The largest number of lists, objects and properties on a path from the root. -/
def nesting : Node → Nat
  | list items => nestingItems items + 1
  | object fields => nestingFields fields + 1
  | property _ value => value.nesting + 1
  | _ => 0

/-- The largest nesting of some items. -/
def nestingItems : List Node → Nat
  | [] => 0
  | item :: rest => max item.nesting (nestingItems rest)

/-- The largest nesting of some fields. -/
def nestingFields : List (String × Node) → Nat
  | [] => 0
  | (_, value) :: rest => max value.nesting (nestingFields rest)

end

/-! ## Well-formed trees -/

mutual

/-- Every object of the tree has distinct names. All operations of the library keep this. -/
def WellFormed : Node → Prop
  | list items => WellFormedItems items
  | object fields => Fields.Distinct fields ∧ WellFormedFields fields
  | property _ value => value.WellFormed
  | _ => True

def WellFormedItems : List Node → Prop
  | [] => True
  | item :: rest => item.WellFormed ∧ WellFormedItems rest

def WellFormedFields : List (String × Node) → Prop
  | [] => True
  | (_, value) :: rest => value.WellFormed ∧ WellFormedFields rest

end

end Node

end ManagementModel
