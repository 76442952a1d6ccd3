/-!
# ManagementModel — whole numbers as text

An optional sign and one or more ASCII digits spell a whole number; leading zeros do not count.
Nothing else may stand in the text, and the number has to lie in the range asked for.
-/

namespace ManagementModel.Decimal

/-- The value of a character that is an ASCII digit. -/
def digit? (c : Char) : Option Nat :=
  if '0' ≤ c && c ≤ '9' then some (c.toNat - 48) else none

/-- Appends the digits of `s` to the number `n`. -/
def appendDigits (n : Nat) : List Char → Option Nat
  | [] => some n
  | c :: rest =>
    match digit? c with
    | some d => appendDigits (n * 10 + d) rest
    | none => none

/-- The number that a non-empty sequence of digits spells. -/
def natural? : List Char → Option Nat
  | [] => none
  | s => appendDigits 0 s

/-- The number that digits behind an optional sign spell. -/
def signed? : List Char → Option Int
  | '+' :: rest => (natural? rest).map Int.ofNat
  | '-' :: rest => (natural? rest).map fun n => -Int.ofNat n
  | s => (natural? s).map Int.ofNat

/-- A whole number in the range of 64 bit words with a sign. -/
def int64? (s : String) : Option Int64 := do
  let n ← signed? s.toList
  if Int64.minValue.toInt ≤ n && n ≤ Int64.maxValue.toInt then some (Int64.ofInt n) else none

/-- A whole number in the range of 64 bit words without a sign; a minus sign has no place in it,
a plus sign has. -/
def uint64? (s : String) : Option UInt64 := do
  let n ← natural? (match s.toList with
    | '+' :: rest => rest
    | s => s)
  if n < UInt64.size then some n.toUInt64 else none

/-- The digits of a number. -/
def natChars (n : Nat) : List Char :=
  Nat.toDigits 10 n

/-- The text of a whole number: a minus sign if it is negative, and its digits. -/
def intChars : Int → List Char
  | .ofNat n => natChars n
  | .negSucc n => '-' :: natChars (n + 1)

end ManagementModel.Decimal
