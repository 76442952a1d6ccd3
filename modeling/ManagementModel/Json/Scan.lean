import ManagementModel.Decimal.Integer
import ManagementModel.Json.Fault
import ManagementModel.Json.Value
import ManagementModel.Text.Percent
import ManagementModel.Text.Utf16

/-!
# ManagementModel — the words of a JSON text

Readers of the parts that have no parts: blanks, literals, strings and numbers. Each takes
characters from the front of the text and leaves the rest.

Numbers with a fraction or an exponent are not rounded exactly. Their digits are collected while
they fit a word of 64 bits; further digits before the point only raise the exponent, and further
digits behind it are dropped. The collected digits become a double, which is multiplied with, or
divided by, the power of ten.
-/

namespace ManagementModel.Json

/-- Takes characters from the front of a text. -/
abbrev Reader (α : Type) := StateT (List Char) (Except Fault) α

namespace Reader

/-- A fault found in front of what is left. -/
def failBefore {α : Type} (cause : Cause) (rest : List Char) : Except Fault (α × List Char) :=
  .error ⟨cause, Text.Utf8.size rest⟩

/-- A fault of the next byte. -/
def failAt {α : Type} (cause : Cause) (rest : List Char) : Except Fault (α × List Char) :=
  .error ⟨cause, Text.Utf8.size rest - 1⟩

/-- The four characters that may stand between the parts of a document. -/
def isBlank (c : Char) : Bool :=
  c == ' ' || c == '\n' || c == '\t' || c == '\r'

def skipBlanks (s : List Char) : List Char :=
  s.dropWhile isBlank

/-- The remaining characters of a literal. -/
def literal {α : Type} (value : α) : List Char → Reader α
  | [] => return value
  | e :: expected => fun s =>
    match s with
    | [] => failBefore .eofValue []
    | c :: rest => if c == e then literal value expected rest else failAt .expectedIdent s

/-! ## Strings -/

/-- The unit that the next four bytes spell in hexadecimal digits. -/
def hexUnit : Reader Nat := fun s =>
  if Text.Utf8.size (s.take 4) < 4 then failBefore .eofString []
  else
    match (s.take 4).mapM Text.hexDigit? with
    | some ds => .ok (ds.foldl (fun n d => n * 16 + d) 0, s.drop 4)
    | none => .error ⟨.invalidEscape, Text.Utf8.size s - 4⟩

/-- Expects one more character of a surrogate pair. -/
def pairChar (expected : Char) : Reader Unit := fun s =>
  match s with
  | [] => failBefore .eofString []
  | c :: rest =>
    if c == expected then .ok ((), rest)
    else failAt .endOfHexEscape s

/-- The character of an escape by number, whose first unit has been announced. A leading surrogate
needs an escaped trailing one behind it. -/
def unicodeEscape : Reader Char := do
  let unit ← hexUnit
  if 0xdc00 ≤ unit && unit ≤ 0xdfff then fun s => failBefore .loneSurrogate s
  else if 0xd800 ≤ unit && unit ≤ 0xdbff then do
    pairChar '\\'
    pairChar 'u'
    let low ← hexUnit
    if 0xdc00 ≤ low && low ≤ 0xdfff then
      return Text.Utf16.charOfPair unit.toUInt16 low.toUInt16
    else fun s => failBefore .loneSurrogate s
  else return Char.ofNat unit

/-- The character that a letter behind a backslash stands for. -/
def simpleEscape? (c : Char) : Option Char :=
  if c == '"' || c == '\\' || c == '/' then some c
  else if c == 'b' then some '\x08'
  else if c == 'f' then some '\x0c'
  else if c == 'n' then some '\n'
  else if c == 'r' then some '\r'
  else if c == 't' then some '\t'
  else none

/-- The character that is escaped behind a backslash. -/
def escaped : Reader Char := fun s =>
  match s with
  | [] => failBefore .eofString []
  | c :: rest =>
    match simpleEscape? c with
    | some e => .ok (e, rest)
    | none => if c == 'u' then unicodeEscape rest else failAt .invalidEscape s

/-- The characters of a string up to its closing quote, behind the reversed `acc`. Each round takes
a character at least, so `fuel` need not exceed the length of the text. -/
def stringOnto (acc : List Char) : (fuel : Nat) → Reader (List Char)
  | 0 => failBefore .eofString
  | fuel + 1 => fun s =>
    match s with
    | [] => failBefore .eofString []
    | c :: rest =>
      if c == '"' then .ok (acc.reverse, rest)
      else if c == '\\' then
        match escaped rest with
        | .ok (e, rest) => stringOnto (e :: acc) fuel rest
        | .error fault => .error fault
      else if c.toNat < 0x20 then failBefore .controlCharacter rest
      else stringOnto (c :: acc) fuel rest

/-- The string whose opening quote has been taken. -/
def stringBody (fuel : Nat) : Reader String := do
  return String.ofList (← stringOnto [] fuel)

/-! ## Numbers -/

/-- The largest significand. -/
def maxSignificand : Nat := 0xffffffffffffffff

/-- The largest exponent that is added up. -/
def maxExponent : Int := 0x7fffffff

/-- Brings an exponent into the range of words of 32 bits. -/
def clampExponent (e : Int) : Int :=
  max (-0x80000000) (min maxExponent e)

/-- The double with a sign, which is finite. -/
def real (negative : Bool) (mag : Nat) : Reader Number := fun s =>
  let bits := Binary64.withSign negative mag
  if h : Binary64.isFinite bits = true then .ok (.real bits h, s)
  else failBefore .numberOutOfRange s

/-- Divides by `10 ^ 308` while the exponent is below `-308`; a zero needs no more steps. -/
def descend (mag : Nat) (exponent : Int) : (fuel : Nat) → Nat × Int
  | 0 => (mag, exponent)
  | fuel + 1 =>
    if exponent < -308 && mag != 0 then
      descend (Binary64.div mag (Binary64.ofNat (Nat.pow 10 308))) (exponent + 308) fuel
    else (mag, exponent)

/-- The number `significand · 10 ^ exponent`. -/
def scaleByTen (negative : Bool) (significand : Nat) (exponent : Int) : Reader Number := fun s =>
  let start := Binary64.ofNat significand
  if 308 < exponent then
    if start == 0 then real negative 0 s else failBefore .numberOutOfRange s
  else if 0 ≤ exponent then
    let mag := Binary64.mul start (Binary64.ofNat (Nat.pow 10 exponent.toNat))
    if mag == Binary64.infinity then failBefore .numberOutOfRange s else real negative mag s
  else
    -- five steps take the largest significand below the smallest double
    let (mag, exponent) := descend start exponent 5
    if mag == 0 then real negative 0 s
    else real negative (Binary64.div mag (Binary64.ofNat (Nat.pow 10 exponent.natAbs))) s

/-- What remains behind the digits at the front. -/
def skipDigits (s : List Char) : List Char :=
  s.dropWhile fun c => (Decimal.digit? c).isSome

/-- Adds the digits at the front to the exponent, until it leaves the range of words. -/
def exponentDigits (e : Nat) : List Char → Option Nat × List Char
  | [] => (some e, [])
  | c :: rest =>
    match Decimal.digit? c with
    | some d =>
      if maxExponent < e * 10 + d then (none, rest) else exponentDigits (e * 10 + d) rest
    | none => (some e, c :: rest)

/-- The exponent of a number, behind its letter, and the number. -/
def exponentPart (negative : Bool) (significand : Nat) (start : Int) : Reader Number := fun s =>
  let (down, s) := match s with
    | '+' :: rest => (false, rest)
    | '-' :: rest => (true, rest)
    | s => (false, s)
  match s with
  | [] => failBefore .eofValue []
  | c :: rest =>
    match Decimal.digit? c with
    | none => failAt .invalidNumber s
    | some d =>
      match exponentDigits d rest with
      | (some e, rest) =>
        scaleByTen negative significand (clampExponent (if down then start - e else start + e)) rest
      | (none, rest) =>
        if significand != 0 && !down then failBefore .numberOutOfRange rest
        else real negative 0 (skipDigits rest)

/-- What follows the digits of a number: an exponent, or the end. -/
def afterDigits (negative : Bool) (significand : Nat) (exponent : Int) : Reader Number := fun s =>
  match s with
  | c :: rest =>
    if c == 'e' || c == 'E' then exponentPart negative significand exponent rest
    else scaleByTen negative significand exponent s
  | [] => scaleByTen negative significand exponent []

/-- Collects the digits behind the point while they fit, and counts them down in the exponent. -/
def fractionDigits (significand : Nat) (exponent : Int) : List Char → Nat × Int × List Char
  | [] => (significand, exponent, [])
  | c :: rest =>
    match Decimal.digit? c with
    | some d =>
      if maxSignificand < significand * 10 + d then (significand, exponent, skipDigits rest)
      else fractionDigits (significand * 10 + d) (exponent - 1) rest
    | none => (significand, exponent, c :: rest)

/-- The fraction of a number, behind its point, and the number. -/
def fractionPart (negative : Bool) (significand : Nat) (exponent : Int) : Reader Number := fun s =>
  match s with
  | [] => failAt .eofValue []
  | c :: _ =>
    if (Decimal.digit? c).isNone then failAt .invalidNumber s
    else
      let (significand, exponent, rest) := fractionDigits significand exponent s
      afterDigits negative significand exponent rest

/-- Counts the digits before the point that no longer fit, in the exponent. -/
def longWhole (negative : Bool) (significand : Nat) (exponent : Int) : List Char →
    Except Fault (Number × List Char)
  | [] => afterDigits negative significand exponent []
  | c :: rest =>
    if (Decimal.digit? c).isSome then longWhole negative significand (exponent + 1) rest
    else if c == '.' then fractionPart negative significand exponent rest
    else afterDigits negative significand exponent (c :: rest)

/-- A number without fraction and exponent. A zero with a minus sign, and a negative number that no
word with a sign holds, are doubles. -/
def wholeNumber (negative : Bool) (n : Nat) : Reader Number := fun s =>
  if negative then
    if h : n ≠ 0 ∧ n ≤ 0x8000000000000000 then .ok (.whole (-(n : Int)) (by omega), s)
    else real true (Binary64.ofNat n) s
  else
    if h : n < 0x10000000000000000 then .ok (.whole n (by omega), s)
    else real false (Binary64.ofNat n) s

/-- What follows the digits before the point while they fit a word. -/
def afterWhole (negative : Bool) (n : Nat) : Reader Number := fun s =>
  match s with
  | c :: rest =>
    if c == '.' then fractionPart negative n 0 rest
    else if c == 'e' || c == 'E' then exponentPart negative n 0 rest
    else wholeNumber negative n s
  | [] => wholeNumber negative n []

/-- Collects the digits before the point while they fit. -/
def wholeDigits (negative : Bool) (n : Nat) : List Char → Except Fault (Number × List Char)
  | [] => afterWhole negative n []
  | c :: rest =>
    match Decimal.digit? c with
    | some d =>
      if maxSignificand < n * 10 + d then longWhole negative n 0 (c :: rest)
      else wholeDigits negative (n * 10 + d) rest
    | none => afterWhole negative n (c :: rest)

/-- A number whose sign has been taken. It begins with a digit, and with zero only alone. -/
def number (negative : Bool) : Reader Number := fun s =>
  match s with
  | [] => failBefore .eofValue []
  | c :: rest =>
    match Decimal.digit? c with
    | none => failAt .invalidNumber s
    | some 0 =>
      match rest with
      | d :: _ =>
        if (Decimal.digit? d).isSome then failAt .invalidNumber rest
        else afterWhole negative 0 rest
      | [] => afterWhole negative 0 []
    | some d => wholeDigits negative d rest

end Reader

end ManagementModel.Json
