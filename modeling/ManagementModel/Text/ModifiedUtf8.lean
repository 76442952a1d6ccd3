import ManagementModel.Text.Utf16

/-!
# ManagementModel — modified UTF-8

Texts travel as the bytes of their sixteen bit units, each unit by itself in one, two or three
bytes. `U+0000` takes two bytes, so that no zero byte occurs, and a character beyond `U+FFFF`
takes two groups of three, one for each surrogate.

Reading is more liberal than writing: it takes a raw zero byte, and it takes a unit in more bytes
than it needs.
-/

namespace ManagementModel.Text.ModifiedUtf8

/-- The shortest group for a unit, `0` apart: a unit below `0x80` is its own byte, one below
`0x800` has five bits in a byte `110xxxxx` and six in a byte `10xxxxxx`, and any other has four
bits in a byte `1110xxxx` and six in each of two more. -/
def encodeUnit (u : UInt16) : List UInt8 :=
  let n := u.toNat
  if n != 0 && n < 0x80 then [n.toUInt8]
  else if n < 0x800 then [(0xc0 + n / 0x40).toUInt8, (0x80 + n % 0x40).toUInt8]
  else [(0xe0 + n / 0x1000).toUInt8, (0x80 + n / 0x40 % 0x40).toUInt8, (0x80 + n % 0x40).toUInt8]

/-- The bytes that are written for a text. -/
def encode (s : String) : List UInt8 :=
  (Utf16.units s.toList).flatMap encodeUnit

/-- The second and third bytes of a group have the form `10xxxxxx`. -/
def isContinuation (b : UInt8) : Bool := 0x80 ≤ b && b < 0xc0

/-- The unit of a group of two bytes. -/
def unitOfTwo (a b : UInt8) : UInt16 :=
  (a.toNat % 0x20 * 0x40 + b.toNat % 0x40).toUInt16

/-- The unit of a group of three bytes. -/
def unitOfThree (a b c : UInt8) : UInt16 :=
  (a.toNat % 0x10 * 0x1000 + b.toNat % 0x40 * 0x40 + c.toNat % 0x40).toUInt16

/-- Splits bytes into groups and collects their units behind the reversed `acc`. The first byte
of a group fixes its length; a group may not be cut off. -/
def unitsOnto (acc : List UInt16) : List UInt8 → Option (List UInt16)
  | [] => some acc.reverse
  | a :: rest =>
    if a < 0x80 then unitsOnto (a.toNat.toUInt16 :: acc) rest
    else if 0xc0 ≤ a && a < 0xe0 then
      match rest with
      | b :: rest => if isContinuation b then unitsOnto (unitOfTwo a b :: acc) rest else none
      | [] => none
    else if 0xe0 ≤ a && a < 0xf0 then
      match rest with
      | b :: c :: rest =>
        if isContinuation b && isContinuation c then unitsOnto (unitOfThree a b c :: acc) rest
        else none
      | _ => none
    else none

/-- The units that a byte sequence spells. -/
def units? (bs : List UInt8) : Option (List UInt16) :=
  unitsOnto [] bs

/-- The text that a byte sequence spells, if its units pair their surrogates. -/
def decode? (bs : List UInt8) : Option String := do
  let us ← units? bs
  return String.ofList (← Utf16.chars? us)

end ManagementModel.Text.ModifiedUtf8
