/-!
# ManagementModel — UTF-8

The bytes of a text, and the text of bytes. Offsets and columns in error texts count these bytes.
A file name may hold bytes that are no text: there each longest piece that could begin a character
becomes one replacement character.
-/

namespace ManagementModel.Text.Utf8

def bytes (s : String) : List UInt8 :=
  s.toList.flatMap String.utf8EncodeChar

/-- The number of bytes of a sequence of characters. -/
def size (s : List Char) : Nat :=
  s.foldl (fun n c => n + c.utf8Size) 0

/-- The text of the bytes, if every one of them belongs to a character. -/
def decode? (bs : List UInt8) : Option String :=
  String.fromUTF8? ⟨bs.toArray⟩

/-- How many bytes follow a leading byte, and the range of the first of them. -/
def leader? (b : UInt8) : Option (Nat × UInt8 × UInt8) :=
  if 0xc2 ≤ b && b ≤ 0xdf then some (1, 0x80, 0xbf)
  else if b == 0xe0 then some (2, 0xa0, 0xbf)
  else if b == 0xed then some (2, 0x80, 0x9f)
  else if 0xe1 ≤ b && b ≤ 0xef then some (2, 0x80, 0xbf)
  else if b == 0xf0 then some (3, 0x90, 0xbf)
  else if 0xf1 ≤ b && b ≤ 0xf3 then some (3, 0x80, 0xbf)
  else if b == 0xf4 then some (3, 0x80, 0x8f)
  else none

/-- The payload bits of a leading byte that `count` bytes follow. -/
def leaderBits (count : Nat) (b : UInt8) : Nat :=
  b.toNat % (if count == 1 then 0x20 else if count == 2 then 0x10 else 0x08)

/-- Reads bytes one by one. `wanted` is the number of bytes that the character begun still needs,
`lo` and `hi` bound the next of them, and `value` holds the bits so far. -/
def decodeLossyFrom (wanted : Nat) (lo hi : UInt8) (value : Nat) : List UInt8 → List Char
  | [] => if wanted == 0 then [] else ['\ufffd']
  | b :: rest =>
    if wanted != 0 && lo ≤ b && b ≤ hi then
      let value := value * 64 + b.toNat % 64
      if wanted == 1 then Char.ofNat value :: decodeLossyFrom 0 0 0 0 rest
      else decodeLossyFrom (wanted - 1) 0x80 0xbf value rest
    else
      (if wanted == 0 then id else ('\ufffd' :: ·)) <|
        if b < 0x80 then Char.ofNat b.toNat :: decodeLossyFrom 0 0 0 0 rest
        else match leader? b with
          | some (count, lo, hi) => decodeLossyFrom count lo hi (leaderBits count b) rest
          | none => '\ufffd' :: decodeLossyFrom 0 0 0 0 rest

/-- The text of the bytes, with replacement characters for what is no character. -/
def decodeLossy (bs : List UInt8) : String :=
  String.ofList (decodeLossyFrom 0 0 0 0 bs)

end ManagementModel.Text.Utf8
