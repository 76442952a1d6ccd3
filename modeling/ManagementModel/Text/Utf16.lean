/-!
# ManagementModel — sixteen bit units of a text

A character up to `U+FFFF` is one unit. Every other character is a pair: a leading surrogate in
`D800…DBFF`, then a trailing one in `DC00…DFFF`. A sequence of units is well formed when each
surrogate stands in such a pair.
-/

namespace ManagementModel.Text.Utf16

def isLeading (u : UInt16) : Bool := 0xd800 ≤ u && u ≤ 0xdbff

def isTrailing (u : UInt16) : Bool := 0xdc00 ≤ u && u ≤ 0xdfff

/-- The units of one character. -/
def unitsOfChar (c : Char) : List UInt16 :=
  let n := c.toNat
  if n < 0x10000 then [n.toUInt16]
  else [(0xd800 + (n - 0x10000) / 0x400).toUInt16, (0xdc00 + (n - 0x10000) % 0x400).toUInt16]

def units (s : List Char) : List UInt16 :=
  s.flatMap unitsOfChar

/-- The character of a surrogate pair. -/
def charOfPair (hi lo : UInt16) : Char :=
  Char.ofNat (0x10000 + (hi.toNat - 0xd800) * 0x400 + (lo.toNat - 0xdc00))

/-- Joins units into characters behind the reversed `acc`; a surrogate without its partner has
no reading. -/
def charsOnto (acc : List Char) : List UInt16 → Option (List Char)
  | [] => some acc.reverse
  | u :: rest =>
    if isLeading u then
      match rest with
      | v :: rest => if isTrailing v then charsOnto (charOfPair u v :: acc) rest else none
      | [] => none
    else if isTrailing u then none
    else charsOnto (Char.ofNat u.toNat :: acc) rest

/-- The text with the given units, if they are well formed. -/
def chars? (us : List UInt16) : Option (List Char) :=
  charsOnto [] us

end ManagementModel.Text.Utf16
