import ManagementModel.Text.Canonical
import ManagementModel.Text.Utf8
import ManagementModel.Url.Domain.Character
import ManagementModel.Url.Domain.Direction
import ManagementModel.Url.Domain.Joining
import ManagementModel.Url.Punycode

/-!
# ManagementModel — domain names

Every character of a domain is mapped, and the whole is brought into its canonical form. The labels
between its dots then have to obey the rules for international names: no label begins with a
combining mark, joiners stand where they have an effect, an ASCII form stands for a label that is in
its mapped form already, a label that is not of ASCII is not too long, and where a label is written
from right to left, the directions within each label fit.

Labels are not brought into their ASCII form.
-/

namespace ManagementModel.Url.Domain

open Text

/-- The mapped form of a text, unless a character in it may not occur. -/
def mapped? (s : List Char) : Option (List Char) := do
  let text := Canonical.form (← s.mapM mapChar?).flatten
  if text.any isForbiddenAscii then none else some text

/-- A longer ASCII form is not read. -/
def maxFormLength : Nat := 2000

/-- A longer label has no ASCII form. -/
def maxLabelLength : Nat := 1000

/-- The label that is written out. The ASCII form may not stand for a label of ASCII, nor for one
that would be changed if it were written out. -/
def written? (label : List Char) : Option (List Char) :=
  match label with
  | 'x' :: 'n' :: '-' :: '-' :: form =>
    if form.getLast? == none || form.getLast? == some '-' || maxFormLength < form.length then none
    else do
      let text ← Punycode.decode? form
      if mapped? text == some text then return text else none
  | _ => some label

/-- The rules that hold for each label. -/
def labelFits (label : List Char) : Bool :=
  !(label.head?.any isMark) && joinersFit [] label &&
    (label.all (·.toNat < 0x80) || label.length ≤ maxLabelLength)

/-- The domain of a text in which nothing is encoded any more. -/
def ofChars? (s : List Char) : Option (List Char) := do
  let text ← mapped? s
  let labels ← (text.splitOn '.').mapM written?
  let mixed := labels.any isRightToLeft
  if labels.all fun label => labelFits label && (!mixed || directionsFit label) then
    return text
  else none

/-- The domain of bytes in which nothing is encoded any more. -/
def ofBytes? (bs : List UInt8) : Option (List Char) := do
  ofChars? (← Text.Utf8.decode? bs).toList

end ManagementModel.Url.Domain
