import ManagementModel.Json.Value
import ManagementModel.Decimal.Shortest

/-!
# ManagementModel — JSON text

Documents are printed on one line without any space, or with each item on a line of its own,
indented by two spaces a level. The two are one printer with two spacings.
-/

namespace ManagementModel.Json

/-- Doubles are written with an exponent from `1e+16` up and below `1e-5`, and keep a point. -/
def doubleLayout : Decimal.Layout := ⟨true, some (-5, 16), true⟩

/-- What stands between the parts of a document. -/
structure Spacing where
  /-- Before an item, and before the end of its container, given their level. -/
  lineBreak : Nat → List Char
  /-- Behind the colon of a member. -/
  afterColon : List Char

def Spacing.compact : Spacing := ⟨fun _ => [], []⟩

def Spacing.pretty : Spacing := ⟨fun level => '\n' :: List.replicate (2 * level) ' ', [' ']⟩

/-- A character inside quotes. Control characters without a short form are written by number. -/
def escape (c : Char) : List Char :=
  if c == '"' then ['\\', '"']
  else if c == '\\' then ['\\', '\\']
  else if c == '\n' then ['\\', 'n']
  else if c == '\r' then ['\\', 'r']
  else if c == '\t' then ['\\', 't']
  else if c == '\x08' then ['\\', 'b']
  else if c == '\x0c' then ['\\', 'f']
  else if c.toNat < 0x20 then
    ['\\', 'u', '0', '0', Nat.digitChar (c.toNat / 16), Nat.digitChar (c.toNat % 16)]
  else [c]

def quote (s : String) : List Char :=
  '"' :: s.toList.flatMap escape ++ ['"']

def Number.chars : Number → List Char
  | whole n _ => Decimal.intChars n
  | real bits _ => Decimal.doubleChars doubleLayout bits

mutual

/-- The text of a value that stands on the given level, in front of `rest`. -/
def renderAt (spacing : Spacing) (level : Nat) : Json → (rest : List Char) → List Char
  | null, rest => ['n', 'u', 'l', 'l'] ++ rest
  | bool true, rest => ['t', 'r', 'u', 'e'] ++ rest
  | bool false, rest => ['f', 'a', 'l', 's', 'e'] ++ rest
  | number n, rest => n.chars ++ rest
  | string text, rest => quote text ++ rest
  | array [], rest => '[' :: ']' :: rest
  | array (item :: items), rest =>
    '[' :: (spacing.lineBreak (level + 1) ++ renderAt spacing (level + 1) item
      (renderItems spacing (level + 1) items (spacing.lineBreak level ++ ']' :: rest)))
  | object [], rest => '{' :: '}' :: rest
  | object ((name, value) :: members), rest =>
    '{' :: (spacing.lineBreak (level + 1) ++ (quote name ++ ':' :: (spacing.afterColon ++
      renderAt spacing (level + 1) value
        (renderMembers spacing (level + 1) members (spacing.lineBreak level ++ '}' :: rest)))))

/-- The items behind the first, each after a comma, in front of `rest`. -/
def renderItems (spacing : Spacing) (level : Nat) : List Json → (rest : List Char) → List Char
  | [], rest => rest
  | item :: items, rest =>
    ',' :: (spacing.lineBreak level ++
      renderAt spacing level item (renderItems spacing level items rest))

/-- The members behind the first, each after a comma, in front of `rest`. -/
def renderMembers (spacing : Spacing) (level : Nat) :
    List (String × Json) → (rest : List Char) → List Char
  | [], rest => rest
  | (name, value) :: members, rest =>
    ',' :: (spacing.lineBreak level ++ (quote name ++ ':' :: (spacing.afterColon ++
      renderAt spacing level value (renderMembers spacing level members rest))))

end

def render (spacing : Spacing) (value : Json) : String :=
  String.ofList (renderAt spacing 0 value [])

def compact (value : Json) : String :=
  value.render .compact

def pretty (value : Json) : String :=
  value.render .pretty

end ManagementModel.Json
