import ManagementModel.Address
import ManagementModel.Template.Basic
import ManagementModel.Template.Selection

/-!
# ManagementModel — resolving templates

Resolving gives each segment of a template its name and value under a selection. A placeholder
without a value is kept as it is written, or refused, by the policy. Wildcards then replace the
values that are `*`, in order, as long as there are any; a replacement is not looked at again.
-/

namespace ManagementModel.Template

/-- What happens to placeholders without a value. -/
inductive Policy where
  /-- They stay in the address as they are written. -/
  | permissive
  /-- They are refused. -/
  | strict
deriving DecidableEq, Repr

/-- The value that a wildcard replaces. -/
def wildcard : String := "*"

/-- The name and value of a segment, if the selection gives it one. -/
def Segment.resolve? (selection : Selection) : Segment → Option (String × String)
  | .literal name value => some (name, value)
  | .placeholder name token =>
    (selection.resolve? (stripBraces token)).map fun v => (name, v)
  | .tuple t => (selection.value? t).map fun v => (t.resource, v)

/-- The name and value of a segment under a policy. -/
def Segment.resolve (selection : Selection) (policy : Policy) (segment : Segment) :
    Except TemplateError (String × String) :=
  match segment.resolve? selection, policy with
  | some p, _ => .ok p
  | none, .permissive => .ok (segment.name, segment.value)
  | none, .strict => .error (.unresolved segment.value)

/-- Segment by segment, with the wildcards that are left. -/
def resolveSegments (selection : Selection) (policy : Policy) :
    (wildcards : List String) → List Segment → Except TemplateError (List (String × String))
  | _, [] => .ok []
  | wildcards, segment :: rest => do
    let (name, value) ← segment.resolve selection policy
    if value = wildcard then
      match wildcards with
      | w :: wildcards => return (name, w) :: (← resolveSegments selection policy wildcards rest)
      | [] => return (name, value) :: (← resolveSegments selection policy [] rest)
    else return (name, value) :: (← resolveSegments selection policy wildcards rest)

/-- The address of a template under a policy, with wildcards. -/
def resolveWith (t : Template) (selection : Selection) (policy : Policy)
    (wildcards : List String) : Except TemplateError Address := do
  return ⟨← resolveSegments selection policy wildcards t.segments⟩

/-- The address of a template; placeholders without a value stay in it. -/
def resolve (t : Template) (selection : Selection) : Address :=
  ⟨t.segments.map fun s => (s.resolve? selection).getD (s.name, s.value)⟩

end ManagementModel.Template
