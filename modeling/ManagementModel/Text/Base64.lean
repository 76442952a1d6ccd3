import ManagementModel.Text.Utf8

/-!
# ManagementModel — base64

Three bytes are four symbols of the alphabet `A…Z a…z 0…9 + /`; a last group of one or two bytes
is filled up with `=`. Reading is strict: the padding has to be there, and the bits that a short
last group leaves unused have to be zero. Offsets in errors count the bytes of the text.
-/

namespace ManagementModel.Text.Base64

/-- What keeps a text from being read. -/
inductive DecodeError where
  /-- A byte that is no symbol, or padding where none may stand. -/
  | invalidByte (offset : Nat) (byte : UInt8)
  /-- One symbol alone ends the text. -/
  | invalidLength (length : Nat)
  /-- The last symbol has bits that no byte uses. -/
  | invalidLastSymbol (offset : Nat) (byte : UInt8)
  /-- The padding does not fill the last group. -/
  | invalidPadding
deriving DecidableEq, Repr

def DecodeError.message : DecodeError → String
  | .invalidByte offset byte => s!"Invalid symbol {byte.toNat}, offset {offset}."
  | .invalidLength length => s!"Invalid input length: {length}"
  | .invalidLastSymbol offset byte => s!"Invalid last symbol {byte.toNat}, offset {offset}."
  | .invalidPadding => "Invalid padding"

/-- The symbol of a six bit value. -/
def symbol (n : Nat) : Char :=
  if n < 26 then Char.ofNat (65 + n)
  else if n < 52 then Char.ofNat (97 + (n - 26))
  else if n < 62 then Char.ofNat (48 + (n - 52))
  else if n == 62 then '+'
  else '/'

/-- The six bit value of a symbol, given by its byte. -/
def value? (b : UInt8) : Option Nat :=
  let n := b.toNat
  if 65 ≤ n && n ≤ 90 then some (n - 65)
  else if 97 ≤ n && n ≤ 122 then some (n - 97 + 26)
  else if 48 ≤ n && n ≤ 57 then some (n - 48 + 52)
  else if n == 43 then some 62
  else if n == 47 then some 63
  else none

/-- The symbols of a byte sequence, with padding. -/
def encodeChars : List UInt8 → List Char
  | [] => []
  | [a] =>
    let n := a.toNat
    [symbol (n / 4), symbol (n % 4 * 16), '=', '=']
  | [a, b] =>
    let n := a.toNat * 256 + b.toNat
    [symbol (n / 1024), symbol (n / 16 % 64), symbol (n % 16 * 4), '=']
  | a :: b :: c :: rest =>
    let n := (a.toNat * 256 + b.toNat) * 256 + c.toNat
    symbol (n / 262144) :: symbol (n / 4096 % 64) :: symbol (n / 64 % 64) :: symbol (n % 64) ::
      encodeChars rest

def encode (bs : List UInt8) : String :=
  String.ofList (encodeChars bs)

/-- The value of the symbol at an offset. -/
def readSymbol (offset : Nat) (b : UInt8) : Except DecodeError Nat :=
  match value? b with
  | some n => .ok n
  | none => .error (.invalidByte offset b)

/-- The padding symbol. -/
def pad : UInt8 := 61

/-- The symbols of the last group, at most four bytes from `offset` on, and the number of padding
symbols behind them. Padding may begin only behind two symbols, and no symbol may follow it. -/
def readTail (offset : Nat) : (index : Nat) → List UInt8 → Except DecodeError (List Nat × Nat)
  | _, [] => .ok ([], 0)
  | index, b :: rest =>
    if b == pad then
      if index < 2 then .error (.invalidByte (offset + index) b)
      else if rest.all (· == pad) then .ok ([], rest.length + 1)
      else .error (.invalidByte (offset + index) b)
    else do
      let n ← readSymbol (offset + index) b
      let (symbols, padding) ← readTail offset (index + 1) rest
      return (n :: symbols, padding)

/-- The bytes of the last group. -/
def decodeTail (offset : Nat) (tail : List UInt8) : Except DecodeError (List UInt8) := do
  let (symbols, padding) ← readTail offset 0 tail
  match symbols with
  | [] => return []
  | [_] => throw (.invalidLength (offset + 1))
  | [m, n] =>
    if padding != 2 then throw .invalidPadding
    if n % 16 != 0 then throw (.invalidLastSymbol (offset + 1) (tail.getD 1 0))
    return [(m * 4 + n / 16).toUInt8]
  | [m, n, o] =>
    if padding != 1 then throw .invalidPadding
    if o % 4 != 0 then throw (.invalidLastSymbol (offset + 2) (tail.getD 2 0))
    return [(m * 4 + n / 16).toUInt8, (n % 16 * 16 + o / 4).toUInt8]
  | m :: n :: o :: p :: _ =>
    return [(m * 4 + n / 16).toUInt8, (n % 16 * 16 + o / 4).toUInt8, (o % 4 * 64 + p).toUInt8]

/-- Reads group after group; a group that another byte follows consists of four symbols. -/
def decodeFrom (offset : Nat) : List UInt8 → Except DecodeError (List UInt8)
  | a :: b :: c :: d :: e :: rest => do
    let m ← readSymbol offset a
    let n ← readSymbol (offset + 1) b
    let o ← readSymbol (offset + 2) c
    let p ← readSymbol (offset + 3) d
    let bytes ← decodeFrom (offset + 4) (e :: rest)
    return (m * 4 + n / 16).toUInt8 :: (n % 16 * 16 + o / 4).toUInt8 ::
      (o % 4 * 64 + p).toUInt8 :: bytes
  | tail => decodeTail offset tail

/-- The bytes that a text spells. A foreign last byte, one symbol too many, is reported before
anything else that is wrong. -/
def decode (s : String) : Except DecodeError (List UInt8) :=
  let bs := Utf8.bytes s
  match bs.getLast? with
  | some last =>
    if bs.length % 4 == 1 && last != pad && (value? last).isNone then
      .error (.invalidByte (bs.length - 1) last)
    else decodeFrom 0 bs
  | none => .ok []

end ManagementModel.Text.Base64
