/-!
# ManagementModel — ranges of code points

A property of characters is given as data: by the ranges of code points that have it, or, where it
has a value, by runs of code points with one value for each run, or by rows of code points with one
value for each of them. All are in ascending order, so that a search ends at the first one above
the code point.
-/

namespace ManagementModel.Text

/-- Closed ranges of code points. -/
abbrev Ranges := List (Nat × Nat)

/-- A code point lies in one of the ranges. -/
def Ranges.covers : Ranges → Nat → Bool
  | [], _ => false
  | (first, last) :: rest, n =>
    if n < first then false else if n ≤ last then true else Ranges.covers rest n

/-- Closed ranges of code points, each with a value. -/
abbrev Runs (α : Type) := List (Nat × Nat × α)

/-- How far a code point is from the first one of its run, and the value of the run. -/
def Runs.value? {α : Type} : Runs α → Nat → Option (Nat × α)
  | [], _ => none
  | (first, last, value) :: rest, n =>
    if n < first then none else if n ≤ last then some (n - first, value) else Runs.value? rest n

/-- The values of adjacent code points, from a first one on. -/
abbrev Rows (α : Type) := List (Nat × List α)

/-- The value of a code point. -/
def Rows.value? {α : Type} : Rows α → Nat → Option α
  | [], _ => none
  | (first, values) :: rest, n =>
    if n < first then none
    else match values[n - first]? with
      | some value => some value
      | none => Rows.value? rest n

/-- The code point of a value. -/
def Rows.codePoint? {α : Type} [BEq α] (rows : Rows α) (value : α) : Option Nat :=
  rows.findSome? fun (first, values) => (values.idxOf? value).map (first + ·)

end ManagementModel.Text
