import ManagementModel.Template.Segment

/-!
# ManagementModel — address templates

A template is a sequence of segments, written with a slash before each. Slashes too many and blanks
around a segment do not count when a template is read; the empty template is written as one slash.
-/

namespace ManagementModel

/-- An address whose segments may be placeholders. -/
structure Template where
  segments : List Template.Segment
deriving DecidableEq, Repr

namespace Template

/-- The empty template. -/
def root : Template := ⟨[]⟩

/-- The segments of a text, each without the blanks around it and none of them empty. -/
def chunks (s : List Char) : List (List Char) :=
  ((s.splitOn '/').map Text.trimChars).filter fun chunk => !chunk.isEmpty

/-- The template of a text; the first segment that is wrong is reported. -/
def parse (s : String) : Except TemplateError Template := do
  return ⟨← (chunks s.toList).mapM Segment.parse⟩

/-- The text of a template. -/
def text (t : Template) : String :=
  if t.segments.isEmpty then "/" else String.join (t.segments.map fun s => "/" ++ s.text)

/-- The template with the segments of a text behind its own. -/
def append (t : Template) (s : String) : Except TemplateError Template := do
  let more ← parse s
  return ⟨t.segments ++ more.segments⟩

/-- The template without its last segment. -/
def parent (t : Template) : Template :=
  ⟨t.segments.dropLast⟩

def lastName? (t : Template) : Option String :=
  t.segments.getLast?.map Segment.name

def lastValue? (t : Template) : Option String :=
  t.segments.getLast?.map Segment.value

end Template

end ManagementModel
