import ManagementModel.Template.Tuple
import ManagementModel.Text.Blank

/-!
# ManagementModel — what is selected in a session

A selection gives each tuple at most one value. Blank values count as none: selecting one clears
the tuple. The empty selection serves before a session is set up.
-/

namespace ManagementModel.Template

/-- The value of each tuple that has one. -/
structure Selection where
  value? : Tuple → Option String

namespace Selection

/-- No tuple has a value. -/
def empty : Selection := ⟨fun _ => none⟩

/-- Selects a value for a tuple; no value, or a blank one, clears it. -/
def set (s : Selection) (tuple : Tuple) (value : Option String) : Selection :=
  ⟨fun t => if t = tuple then value.filter (fun v => !Text.isBlank v) else s.value? t⟩

/-- Selects a value for a tuple; a blank one clears it. -/
def select (s : Selection) (tuple : Tuple) (value : String) : Selection :=
  s.set tuple (some value)

/-- Forgets all values. -/
def clear (_ : Selection) : Selection := empty

/-- The value of a placeholder, given with or without braces. -/
def resolve? (s : Selection) (placeholder : String) : Option String :=
  (Tuple.ofName? placeholder).bind s.value?

/-- The resource type and the value of a placeholder. -/
def resolveTuple? (s : Selection) (placeholder : String) : Option (String × String) :=
  (Tuple.ofName? placeholder).bind fun t => (s.value? t).map fun v => (t.resource, v)

/-! ## Sessions -/

/-- What a session does to its selection. -/
inductive Action where
  | set (tuple : Tuple) (value : Option String)
  | select (tuple : Tuple) (value : String)
  | clear
deriving DecidableEq, Repr

def act (s : Selection) : Action → Selection
  | .set tuple value => s.set tuple value
  | .select tuple value => s.select tuple value
  | .clear => s.clear

/-- The selection of a session that begins without values. -/
def ofActions (actions : List Action) : Selection :=
  actions.foldl act empty

end Selection

end ManagementModel.Template
