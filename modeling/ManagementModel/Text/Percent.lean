import ManagementModel.Text.Utf8

/-!
# ManagementModel — percent encoding

A byte may be written as a percent sign and two hexadecimal digits. Writing takes upper case
digits, and encodes every byte of a character outside ASCII. Reading takes both cases and leaves a
percent sign alone that two digits do not follow.
-/

namespace ManagementModel.Text

/-- The value of a hexadecimal digit in either case. -/
def hexDigit? (c : Char) : Option Nat :=
  if '0' ≤ c && c ≤ '9' then some (c.toNat - 48)
  else if 'a' ≤ c && c ≤ 'f' then some (c.toNat - 87)
  else if 'A' ≤ c && c ≤ 'F' then some (c.toNat - 55)
  else none

namespace Percent

/-- A hexadecimal digit in upper case. -/
def upperDigit (n : Nat) : Char :=
  if n < 10 then Char.ofNat (48 + n) else Char.ofNat (55 + n)

/-- A byte as a percent sign and two digits. -/
def encodeByte (b : UInt8) : List Char :=
  ['%', upperDigit (b.toNat / 16), upperDigit (b.toNat % 16)]

/-- Encodes the characters outside ASCII and those that `reserved` holds of. -/
def encode (reserved : Char → Bool) (s : List Char) : List Char :=
  s.flatMap fun c =>
    if 0x80 ≤ c.toNat || reserved c then (String.utf8EncodeChar c).flatMap encodeByte else [c]

/-- The control characters of ASCII. -/
def isControl (c : Char) : Bool :=
  c.toNat < 0x20 || c.toNat == 0x7f

/-- The value of a byte that is a hexadecimal digit. -/
def hexValue? (b : UInt8) : Option UInt8 :=
  (hexDigit? (Char.ofNat b.toNat)).map Nat.toUInt8

/-- The bytes that bytes with percent signs spell. -/
def decode : List UInt8 → List UInt8
  | 37 :: a :: b :: rest =>
    match hexValue? a, hexValue? b with
    | some m, some n => (m * 16 + n) :: decode rest
    | _, _ => 37 :: decode (a :: b :: rest)
  | b :: rest => b :: decode rest
  | [] => []

end Percent

end ManagementModel.Text
