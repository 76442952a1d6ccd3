import ManagementModel.Json.Reader

/-!
# ManagementModel — values that are passed over

The value of a member that nobody asked for is read over without being kept. Less is asked of it
than of a value that is kept: its containers may be nested to any depth, numbers may be of any size,
and escapes by number need not be characters. The containers that are open are kept in a list, the
innermost first.
-/

namespace ManagementModel.Json

namespace Reader

/-- A container that is open. -/
inductive Bracket where
  | square
  | curly
deriving DecidableEq, Repr

namespace Bracket

def closes : Bracket → Char → Bool
  | square, c => c == ']'
  | curly, c => c == '\x7d'

/-- What is missing when the text ends in the container. -/
def endOfText : Bracket → Cause
  | square => .eofList
  | curly => .eofObject

/-- What is missing when something else follows a part of the container. -/
def commaOrEnd : Bracket → Cause
  | square => .expectedListCommaOrEnd
  | curly => .expectedObjectCommaOrEnd

end Bracket

/-! ## Values without parts -/

/-- Passes over a string whose opening quote has been taken. -/
def skipString : (fuel : Nat) → Reader Unit
  | 0 => failBefore .eofString
  | fuel + 1 => fun s =>
    match s with
    | [] => failBefore .eofString []
    | c :: rest =>
      if c == '"' then .ok ((), rest)
      else if c == '\\' then
        match rest with
        | [] => failBefore .eofString []
        | e :: tail =>
          if e == 'u' then
            match hexUnit tail with
            | .ok (_, tail) => skipString fuel tail
            | .error fault => .error fault
          else if (simpleEscape? e).isSome then skipString fuel tail
          else failAt .invalidEscape rest
      else if c.toNat < 0x20 then failBefore .controlCharacter s
      else skipString fuel rest

/-- Passes over an exponent behind its letter. -/
def skipExponent : Reader Unit := fun s =>
  let s := match s with
    | c :: rest => if c == '+' || c == '-' then rest else s
    | [] => []
  match s with
  | [] => failBefore .invalidNumber []
  | c :: rest =>
    if (Decimal.digit? c).isSome then .ok ((), skipDigits rest) else failAt .invalidNumber s

/-- Passes over what follows the digits of a number. -/
def skipAfterDigits : Reader Unit := fun s =>
  match s with
  | c :: rest => if c == 'e' || c == 'E' then skipExponent rest else .ok ((), s)
  | [] => .ok ((), [])

/-- Passes over a fraction behind its point. -/
def skipFraction : Reader Unit := fun s =>
  match s with
  | [] => failBefore .invalidNumber []
  | c :: rest =>
    if (Decimal.digit? c).isSome then skipAfterDigits (skipDigits rest)
    else failAt .invalidNumber s

/-- Passes over a number whose sign has been taken. -/
def skipNumber : Reader Unit := fun s =>
  match s with
  | [] => failBefore .invalidNumber []
  | c :: rest =>
    if (Decimal.digit? c).isNone then failAt .invalidNumber s
    else if c == '0' && rest.head?.any (fun d => (Decimal.digit? d).isSome) then
      failAt .invalidNumber rest
    else
      match skipDigits rest with
      | [] => .ok ((), [])
      | d :: tail => if d == '.' then skipFraction tail else skipAfterDigits (d :: tail)

/-- Passes over a value that is no container, given the character it begins with. -/
def skipScalar (fuel : Nat) (c : Char) (rest : List Char) : Except Fault (Unit × List Char) :=
  if c == 'n' then literal () ['u', 'l', 'l'] rest
  else if c == 't' then literal () ['r', 'u', 'e'] rest
  else if c == 'f' then literal () ['a', 'l', 's', 'e'] rest
  else if c == '-' then skipNumber rest
  else if (Decimal.digit? c).isSome then skipNumber (c :: rest)
  else if c == '"' then skipString fuel rest
  else failAt .expectedValue (c :: rest)

/-! ## Containers -/

/-- Passes over the name that stands before a value in a container. -/
def skipName (fuel : Nat) : Bracket → Reader Unit
  | .square => return ()
  | .curly => fun s =>
    match skipBlanks s with
    | [] => failAt .eofObject []
    | c :: rest =>
      if c == '"' then (do skipString fuel; colon) rest else failAt .keyMustBeString (c :: rest)

/-- Goes on behind a value, up to the next one: the result are the containers around that. -/
def skipBehindValue (fuel : Nat) : List Bracket → Reader (List Bracket)
  | [] => return []
  | bracket :: outer => fun s =>
    match skipBlanks s with
    | [] => failAt bracket.endOfText []
    | c :: rest =>
      if c == ',' then
        match skipName fuel bracket rest with
        | .ok (_, rest) => .ok (bracket :: outer, rest)
        | .error fault => .error fault
      else if bracket.closes c then skipBehindValue fuel outer rest
      else failAt bracket.commaOrEnd (c :: rest)

/-- Goes on behind an opening bracket, up to the next value. -/
def skipBehindBracket (fuel : Nat) (bracket : Bracket) (outer : List Bracket) :
    Reader (List Bracket) := fun s =>
  match skipBlanks s with
  | [] => failAt bracket.endOfText []
  | c :: rest =>
    if bracket.closes c then skipBehindValue fuel outer rest
    else
      match skipName fuel bracket (c :: rest) with
      | .ok (_, rest) => .ok (bracket :: outer, rest)
      | .error fault => .error fault

/-- Passes over a value without parts, or over an opening bracket, and goes on to the next value. -/
def skipOne (fuel : Nat) (around : List Bracket) : Reader (List Bracket) := fun s =>
  match skipBlanks s with
  | [] => failAt .eofValue []
  | c :: rest =>
    if c == '[' then skipBehindBracket fuel .square around rest
    else if c == '\x7b' then skipBehindBracket fuel .curly around rest
    else
      match skipScalar fuel c rest with
      | .ok (_, rest) => skipBehindValue fuel around rest
      | .error fault => .error fault

/-- Passes over values until every container is closed. -/
def skipUntilClosed (bound : Nat) (around : List Bracket) : (fuel : Nat) → Reader Unit
  | 0 => fun s => failAt .eofValue s
  | fuel + 1 => fun s =>
    match skipOne bound around s with
    | .ok ([], rest) => .ok ((), rest)
    | .ok (around, rest) => skipUntilClosed bound around fuel rest
    | .error fault => .error fault

/-- Passes over a value. -/
def skipValue (fuel : Nat) : Reader Unit :=
  skipUntilClosed fuel [] fuel

end Reader

end ManagementModel.Json
