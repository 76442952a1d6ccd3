import ManagementModel.Text.Unassigned
import ManagementModel.Url.Domain.Expansion
import ManagementModel.Url.Domain.Folding

/-!
# ManagementModel — characters of domain names

What a character becomes in a domain name: it is kept, stands for one or several others, is dropped,
or may not occur.
-/

namespace ManagementModel.Url.Domain

open Text

/-- Characters of ASCII that no domain may hold. -/
def isForbiddenAscii (c : Char) : Bool :=
  c.toNat ≤ 0x20 || c.toNat == 0x7f ||
    ['%', '#', '/', ':', '<', '>', '?', '@', '[', '\\', ']', '^', '|'].contains c

/-- Controls and formats that no domain may hold, and characters that stand for a text with a full
stop. -/
def forbidden : Ranges := [
  (0x80, 0x9f), (0x600, 0x605), (0x61c, 0x61c), (0x6dd, 0x6dd), (0x70f, 0x70f), (0x890, 0x891),
  (0x8e2, 0x8e2), (0x1680, 0x1680), (0x200e, 0x200f), (0x2024, 0x2026), (0x2028, 0x202e),
  (0x2066, 0x2069), (0x2488, 0x249b), (0x2ff0, 0x2fff), (0x31ef, 0x31ef), (0x33c2, 0x33c2),
  (0x33c7, 0x33c7), (0x33d8, 0x33d8), (0xfe12, 0xfe12), (0xfe19, 0xfe19), (0xfe30, 0xfe30),
  (0xfe52, 0xfe52), (0xfff9, 0xfffd), (0x110bd, 0x110bd), (0x110cd, 0x110cd), (0x13430, 0x1343f),
  (0x1f100, 0x1f100), (0xe0001, 0xe0001), (0xe0020, 0xe007f)]

/-- Characters that are dropped. -/
def ignored : Ranges := [
  (0xad, 0xad), (0x34f, 0x34f), (0x115f, 0x1160), (0x17b4, 0x17b5), (0x180b, 0x180f),
  (0x200b, 0x200b), (0x2060, 0x2064), (0x206a, 0x206f), (0x3164, 0x3164), (0xfe00, 0xfe0f),
  (0xfeff, 0xfeff), (0xffa0, 0xffa0), (0x1bca0, 0x1bca3), (0x1d173, 0x1d17a), (0xe0100, 0xe01ef)]

/-- What a code point outside ASCII becomes, unless it may not occur. -/
def mapCode? (n : Nat) : Option (List Nat) :=
  if ignored.covers n then some []
  else match folding? n with
    | some m => some [m]
    | none =>
      match expansions.value? n with
      | some text => some text
      | none => if forbidden.covers n || unassigned.covers n then none else some [n]

/-- What a character becomes, unless it may not occur. Characters of ASCII are kept, letters as
small ones. -/
def mapChar? (c : Char) : Option (List Char) :=
  if c.toNat < 0x80 then some [c.toLower] else (mapCode? c.toNat).map (·.map Char.ofNat)

end ManagementModel.Url.Domain
