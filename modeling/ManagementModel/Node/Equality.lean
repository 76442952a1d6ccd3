import ManagementModel.Decimal.Binary64
import ManagementModel.Node.Basic

/-!
# ManagementModel — equality of trees

Two trees are equal when they have the same shape and equal values: objects regardless of the order
of their fields, and doubles as numbers, so that a NaN differs from itself and the two zeros are
equal.
-/

namespace ManagementModel.Node

mutual

def same : Node → Node → Bool
  | undefined, undefined => true
  | boolean a, boolean b => a == b
  | int a, int b => a == b
  | long a, long b => a == b
  | double a, double b => Binary64.numEq a b
  | string a, string b => a == b
  | expression a, expression b => a == b
  | bytes a, bytes b => a == b
  | type a, type b => a == b
  | list as, list bs => sameItems as bs
  | object as, object bs => as.length == bs.length && sameFields as bs
  | property n a, property m b => n == m && a.same b
  | _, _ => false

/-- Item by item. -/
def sameItems : List Node → List Node → Bool
  | [], [] => true
  | a :: as, b :: bs => a.same b && sameItems as bs
  | _, _ => false

/-- Each of the first fields has an equal partner of its name among the second. -/
def sameFields : List (String × Node) → List (String × Node) → Bool
  | [], _ => true
  | (name, a) :: rest, bs =>
    (match Fields.get? name bs with
      | some b => a.same b
      | none => false) && sameFields rest bs

end

/-- Equal trees are of one kind. -/
theorem kind_eq_of_same {a b : Node} (h : a.same b = true) : a.kind = b.kind := by
  unfold same at h
  split at h
  all_goals first | rfl | cases h

end ManagementModel.Node
