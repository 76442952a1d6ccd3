import ManagementModel.Template.Tuple
import ManagementModel.Text.Blank

/-!
# ManagementModel — segments of a template

A segment is a literal name and value, a name with a placeholder for its value, or a tuple, which
stands for both. A placeholder is a token in braces: letters, digits, `_`, `.` and `-`.
-/

namespace ManagementModel

/-- Why a text is no template, or a template has no address. -/
inductive TemplateError where
  | malformed (segment : String)
  | unknownTuple (placeholder : String)
  | unresolved (placeholder : String)
deriving DecidableEq, Repr

def TemplateError.message : TemplateError → String
  | .malformed segment => "malformed address template segment '" ++ segment ++ "'"
  | .unknownTuple placeholder => "unknown tuple placeholder '" ++ placeholder ++ "'"
  | .unresolved placeholder => "unresolved placeholder '" ++ placeholder ++ "'"

namespace Template

inductive Segment where
  | literal (name value : String)
  | placeholder (name token : String)
  | tuple (tuple : Tuple)
deriving DecidableEq, Repr

/-- The characters of a token. -/
def isTokenChar (c : Char) : Bool :=
  c.isAlphanum || c == '_' || c == '.' || c == '-'

/-- A whole text is one token in braces. -/
def isPlaceholder (s : List Char) : Bool :=
  match s with
  | '\x7b' :: rest =>
    rest.getLast? == some '\x7d' && !rest.dropLast.isEmpty && rest.dropLast.all isTokenChar
  | _ => false

namespace Segment

/-- The resource type, as far as it is known without a selection. -/
def name : Segment → String
  | literal name _ => name
  | placeholder name _ => name
  | tuple t => t.resource

/-- The value or the placeholder. -/
def value : Segment → String
  | literal _ value => value
  | placeholder _ token => token
  | tuple t => t.placeholder

/-- The segment as templates write it. -/
def text : Segment → String
  | literal name value => name ++ "=" ++ value
  | placeholder name token => name ++ "=" ++ token
  | tuple t => t.placeholder

/-- The segment of a text without blanks at its ends: a tuple in braces, or a name and a value
around the first equals sign. -/
def parse (raw : List Char) : Except TemplateError Segment :=
  let text := String.ofList raw
  if isPlaceholder raw then
    match Tuple.ofName? text with
    | some t => .ok (tuple t)
    | none => .error (.unknownTuple text)
  else
    match raw.dropWhile (· != '=') with
    | [] => .error (.malformed text)
    | _ :: after =>
      let name := Text.trimChars (raw.takeWhile (· != '='))
      let value := Text.trimChars after
      if name.isEmpty || value.isEmpty then .error (.malformed text)
      else if isPlaceholder value then
        .ok (placeholder (String.ofList name) (String.ofList value))
      else .ok (literal (String.ofList name) (String.ofList value))

end Segment

end Template

end ManagementModel
