import ManagementModel.Json.Scan

/-!
# ManagementModel — reading JSON text

A document is read from its first character on, and the first fault ends the reading. At most 127
containers may be open at once. A member whose name comes again keeps its first position and takes
the last value.

The reader of a value is structural on the number of containers that may still be opened; the
readers of items and members take it as a parameter, and go in rounds of which each takes at least
one character, so that the length of the text bounds them.
-/

namespace ManagementModel.Json

/-- The number of containers that may be open at once. -/
def maxNesting : Nat := 127

namespace Reader

/-- Whether another item follows in a list; if none does, its bracket is taken. Before an item that
is not the first stands a comma, which no bracket follows. -/
def nextItem (isFirst : Bool) : Reader Bool := fun s =>
  match skipBlanks s with
  | [] => failAt .eofList []
  | c :: rest =>
    if c == ']' then .ok (false, rest)
    else if isFirst then .ok (true, c :: rest)
    else if c == ',' then
      match skipBlanks rest with
      | [] => failAt .eofValue []
      | d :: tail =>
        if d == ']' then failAt .trailingComma (d :: tail) else .ok (true, d :: tail)
    else failAt .expectedListCommaOrEnd (c :: rest)

/-- The items of a list from one on, behind the reversed `acc`. -/
def items {α : Type} (item : Reader α) (isFirst : Bool) (acc : List α) :
    (fuel : Nat) → Reader (List α)
  | 0 => fun s => failAt .eofList s
  | fuel + 1 => fun s =>
    match nextItem isFirst s with
    | .error fault => .error fault
    | .ok (false, rest) => .ok (acc.reverse, rest)
    | .ok (true, rest) =>
      match item rest with
      | .ok (v, rest) => items item false (v :: acc) fuel rest
      | .error fault => .error fault

/-- The colon behind the name of a member. -/
def colon : Reader Unit := fun s =>
  match skipBlanks s with
  | [] => failAt .eofObject []
  | c :: rest => if c == ':' then .ok ((), rest) else failAt .expectedColon (c :: rest)

/-- Whether another member follows in an object; the opening quote of its name is taken, or else
the brace of the object. -/
def nextMember (isFirst : Bool) : Reader Bool := fun s =>
  match skipBlanks s with
  | [] => failAt .eofObject []
  | c :: rest =>
    if c == '\x7d' then .ok (false, rest)
    else if isFirst then
      if c == '"' then .ok (true, rest) else failAt .keyMustBeString (c :: rest)
    else if c == ',' then
      match skipBlanks rest with
      | [] => failAt .eofValue []
      | d :: tail =>
        if d == '"' then .ok (true, tail)
        else if d == '\x7d' then failAt .trailingComma (d :: tail)
        else failAt .keyMustBeString (d :: tail)
    else failAt .expectedObjectCommaOrEnd (c :: rest)

/-- A member whose opening quote has been taken. -/
def memberBody {α : Type} (item : Reader α) (fuel : Nat) : Reader (String × α) := do
  let name ← stringBody fuel
  colon
  return (name, ← item)

/-- The members of an object from one on, written into `acc`. -/
def members {α : Type} (item : Reader α) (bound : Nat) (isFirst : Bool) (acc : Fields α) :
    (fuel : Nat) → Reader (Fields α)
  | 0 => fun s => failAt .eofObject s
  | fuel + 1 => fun s =>
    match nextMember isFirst s with
    | .error fault => .error fault
    | .ok (false, rest) => .ok (acc, rest)
    | .ok (true, rest) =>
      match memberBody item bound rest with
      | .ok ((name, v), rest) => members item bound false (Fields.insert name v acc) fuel rest
      | .error fault => .error fault

/-- A value that is no container, given the character it begins with and what follows. -/
def scalar (fuel : Nat) (c : Char) (rest : List Char) : Except Fault (Json × List Char) :=
  if c == 'n' then literal .null ['u', 'l', 'l'] rest
  else if c == 't' then literal (.bool true) ['r', 'u', 'e'] rest
  else if c == 'f' then literal (.bool false) ['a', 'l', 's', 'e'] rest
  else if c == '-' then (Json.number <$> number true) rest
  else if (Decimal.digit? c).isSome then (Json.number <$> number false) (c :: rest)
  else if c == '"' then (Json.string <$> stringBody fuel) rest
  else failAt .expectedValue (c :: rest)

/-- A value that opens at most `levels` levels of containers. -/
def value (fuel : Nat) : (levels : Nat) → Reader Json
  | 0 => fun s =>
    match skipBlanks s with
    | [] => failAt .eofValue []
    | c :: rest =>
      if c == '[' || c == '\x7b' then failAt .recursionLimit (c :: rest)
      else scalar fuel c rest
  | levels + 1 => fun s =>
    match skipBlanks s with
    | [] => failAt .eofValue []
    | c :: rest =>
      if c == '[' then (Json.array <$> items (value fuel levels) true [] fuel) rest
      else if c == '\x7b' then (Json.object <$> members (value fuel levels) fuel true [] fuel) rest
      else scalar fuel c rest

/-- Only blanks may follow a document. -/
def endOfText : Reader Unit := fun s =>
  match skipBlanks s with
  | [] => .ok ((), [])
  | rest => failAt .trailingCharacters rest

/-- Runs a reader on a whole text; `read` is given a bound for its rounds. -/
def run {α : Type} (read : (fuel : Nat) → Reader α) (text : String) : Except SyntaxError α :=
  let s := text.toList
  let whole : Reader α := do
    let v ← read (s.length + 1)
    endOfText
    return v
  match whole s with
  | .ok (v, _) => .ok v
  | .error fault => .error (fault.locate text)

end Reader

/-- The value of a document. -/
def parse (text : String) : Except SyntaxError Json :=
  Reader.run (fun fuel => Reader.value fuel maxNesting) text

end ManagementModel.Json
