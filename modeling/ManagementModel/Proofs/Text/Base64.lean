import ManagementModel.Proofs.Text.Blank
import ManagementModel.Proofs.Text.Utf8
import ManagementModel.Text.Base64

/-!
# ManagementModel — base64 is read back

Three bytes are cut into four numbers of six bits, each number is written as a symbol, and reading
finds the numbers again and joins them. A last group of one or two bytes comes with as many unused
bits as the strict reader wants, all of them zero, and with the padding it asks for.

Main results:

* `decode_encode` — bytes are read back from their symbols.
* `trim_padded` — trimming takes blanks around the symbols away, and nothing else.
-/

namespace ManagementModel.Text.Base64

open Utf8 (bytes)

/-! ## Symbols -/

/-- The byte of the symbol of a six bit value. -/
def symbolByte (n : Nat) : UInt8 := (symbol n).toUInt8

theorem toNat_symbol_lt : ∀ n < 64, (symbol n).toNat < 0x80 := by
  decide

theorem isBlankChar_symbol : ∀ n < 64, isBlankChar (symbol n) = false := by
  decide

theorem value?_symbolByte : ∀ n < 64, value? (symbolByte n) = some n := by
  decide

theorem symbolByte_ne_pad : ∀ n < 64, symbolByte n ≠ pad := by
  decide

/-- A symbol is read without an error, wherever it stands. -/
theorem readSymbol_symbolByte (offset : Nat) {n : Nat} (hn : n < 64) :
    readSymbol offset (symbolByte n) = .ok n := by
  rw [readSymbol, value?_symbolByte n hn]

/-- What is written consists of symbols and padding. -/
theorem mem_encodeChars {bs : List UInt8} {c : Char} (h : c ∈ encodeChars bs) :
    (∃ n < 64, c = symbol n) ∨ c = '=' := by
  fun_induction encodeChars bs with
  | case1 => cases h
  | case2 a n =>
    -- one byte: two symbols and two of padding
    have ha := a.toNat_lt
    simp only [List.mem_cons, List.not_mem_nil, or_false] at h
    rcases h with rfl | rfl | rfl | rfl
    · exact .inl ⟨_, by omega, rfl⟩
    · exact .inl ⟨_, by omega, rfl⟩
    · exact .inr rfl
    · exact .inr rfl
  | case3 a b n =>
    -- two bytes: three symbols and one of padding
    have ha := a.toNat_lt
    have hb := b.toNat_lt
    simp only [List.mem_cons, List.not_mem_nil, or_false] at h
    rcases h with rfl | rfl | rfl | rfl
    · exact .inl ⟨_, by omega, rfl⟩
    · exact .inl ⟨_, by omega, rfl⟩
    · exact .inl ⟨_, by omega, rfl⟩
    · exact .inr rfl
  | case4 a b c' rest n ih =>
    -- three bytes: four symbols in front of the rest
    have ha := a.toNat_lt
    have hb := b.toNat_lt
    have hc := c'.toNat_lt
    simp only [List.mem_cons] at h
    rcases h with rfl | rfl | rfl | rfl | h
    · exact .inl ⟨_, by omega, rfl⟩
    · exact .inl ⟨_, by omega, rfl⟩
    · exact .inl ⟨_, by omega, rfl⟩
    · exact .inl ⟨_, by omega, rfl⟩
    · exact ih h

theorem toNat_lt_of_mem_encodeChars {bs : List UInt8} {c : Char} (h : c ∈ encodeChars bs) :
    c.toNat < 0x80 := by
  rcases mem_encodeChars h with ⟨n, hn, rfl⟩ | rfl
  · exact toNat_symbol_lt n hn
  · decide

/-- What is written has one byte for each of its characters. -/
theorem bytes_encode (bs : List UInt8) :
    bytes (encode bs) = (encodeChars bs).map Char.toUInt8 :=
  Utf8.bytes_ofList_ascii fun _ => toNat_lt_of_mem_encodeChars

/-! ## Groups -/

/-- In a last group a symbol adds its number to what is read from the others. -/
theorem readTail_symbol (offset index : Nat) {n : Nat} (hn : n < 64) (rest : List UInt8) :
    readTail offset index (symbolByte n :: rest) =
      (readTail offset (index + 1) rest).map fun p => (n :: p.1, p.2) := by
  rw [readTail, if_neg (by simpa using symbolByte_ne_pad n hn), readSymbol_symbolByte _ hn]
  cases readTail offset (index + 1) rest <;> rfl

section

variable {m n o p : Nat} (offset : Nat) (hm : m < 64) (hn : n < 64) (ho : o < 64) (hp : p < 64)

include hm hn

/-- Two symbols and two of padding are one byte, if the bits that are left over are zero. -/
theorem decodeTail_two (hzero : n % 16 = 0) :
    decodeTail offset [symbolByte m, symbolByte n, pad, pad] = .ok [(m * 4 + n / 16).toUInt8] := by
  have hread : readTail offset 0 [symbolByte m, symbolByte n, pad, pad] = .ok ([m, n], 2) := by
    rw [readTail_symbol offset 0 hm, readTail_symbol offset 1 hn]
    rfl
  rw [decodeTail, hread]
  simp [bind, Except.bind, pure, Except.pure, hzero]

include ho

/-- Three symbols and one of padding are two bytes, if the bits that are left over are zero. -/
theorem decodeTail_three (hzero : o % 4 = 0) :
    decodeTail offset [symbolByte m, symbolByte n, symbolByte o, pad] =
      .ok [(m * 4 + n / 16).toUInt8, (n % 16 * 16 + o / 4).toUInt8] := by
  have hread : readTail offset 0 [symbolByte m, symbolByte n, symbolByte o, pad] =
      .ok ([m, n, o], 1) := by
    rw [readTail_symbol offset 0 hm, readTail_symbol offset 1 hn, readTail_symbol offset 2 ho]
    rfl
  rw [decodeTail, hread]
  simp [bind, Except.bind, pure, Except.pure, hzero]

include hp

/-- A whole group is read alike at the end and before other groups. -/
theorem decodeFrom_group (rest : List UInt8) :
    decodeFrom offset (symbolByte m :: symbolByte n :: symbolByte o :: symbolByte p :: rest) =
      (decodeFrom (offset + 4) rest).map fun bytes =>
        (m * 4 + n / 16).toUInt8 :: (n % 16 * 16 + o / 4).toUInt8 :: (o % 4 * 64 + p).toUInt8 ::
          bytes := by
  cases rest with
  | nil =>
    -- the last group goes through the reader that also takes padding
    have hread : readTail offset 0 [symbolByte m, symbolByte n, symbolByte o, symbolByte p] =
        .ok ([m, n, o, p], 0) := by
      rw [readTail_symbol offset 0 hm, readTail_symbol offset 1 hn, readTail_symbol offset 2 ho,
        readTail_symbol offset 3 hp]
      rfl
    rw [decodeFrom, decodeTail, hread]
    · rfl
    · rintro _ _ _ _ _ _ ⟨⟩
  | cons e rest =>
    -- any other group has four symbols
    rw [decodeFrom, readSymbol_symbolByte _ hm, readSymbol_symbolByte _ hn,
      readSymbol_symbolByte _ ho, readSymbol_symbolByte _ hp]
    rfl

end

/-! ## All bytes -/

theorem toUInt8_eq {n : Nat} {b : UInt8} (h : n = b.toNat) : n.toUInt8 = b := by
  rw [h]
  exact UInt8.ofNat_toNat

/-- The six bits of each of four symbols are the bits of three bytes. -/
theorem decodeFrom_encodeChars (offset : Nat) (bs : List UInt8) :
    decodeFrom offset ((encodeChars bs).map Char.toUInt8) = .ok bs := by
  induction bs using encodeChars.induct generalizing offset with
  | case1 => rfl
  | case2 a =>
    have ha := a.toNat_lt
    -- six bits of the byte are in the first symbol and two in the second
    have hbyte : (a.toNat / 4 * 4 + a.toNat % 4 * 16 / 16).toUInt8 = a := toUInt8_eq (by omega)
    have htail := decodeTail_two offset (m := a.toNat / 4) (n := a.toNat % 4 * 16) (by omega)
      (by omega) (by omega)
    rw [hbyte] at htail
    exact htail
  | case3 a b =>
    obtain ⟨n, hn⟩ : ∃ n, n = a.toNat * 256 + b.toNat := ⟨_, rfl⟩
    have ha := a.toNat_lt
    have hb := b.toNat_lt
    -- two bytes make one number, from which three symbols are cut
    have hfirst : (n / 1024 * 4 + n / 16 % 64 / 16).toUInt8 = a := toUInt8_eq (by omega)
    have hsecond : (n / 16 % 64 % 16 * 16 + n % 16 * 4 / 4).toUInt8 = b := toUInt8_eq (by omega)
    have htail := decodeTail_three offset (m := n / 1024) (n := n / 16 % 64) (o := n % 16 * 4)
      (by omega) (by omega) (by omega) (by omega)
    rw [hfirst, hsecond, hn] at htail
    exact htail
  | case4 a b c rest ih =>
    obtain ⟨n, hn⟩ : ∃ n, n = (a.toNat * 256 + b.toNat) * 256 + c.toNat := ⟨_, rfl⟩
    have ha := a.toNat_lt
    have hb := b.toNat_lt
    have hc := c.toNat_lt
    -- three bytes make one number, from which four symbols are cut
    have hfirst : (n / 262144 * 4 + n / 4096 % 64 / 16).toUInt8 = a := toUInt8_eq (by omega)
    have hsecond : (n / 4096 % 64 % 16 * 16 + n / 64 % 64 / 4).toUInt8 = b :=
      toUInt8_eq (by omega)
    have hthird : (n / 64 % 64 % 4 * 64 + n % 64).toUInt8 = c := toUInt8_eq (by omega)
    have hgroup := decodeFrom_group offset (m := n / 262144) (n := n / 4096 % 64)
      (o := n / 64 % 64) (p := n % 64) (by omega) (by omega) (by omega) (by omega)
      ((encodeChars rest).map Char.toUInt8)
    rw [hfirst, hsecond, hthird, ih, hn] at hgroup
    exact hgroup

/-- Bytes are read back from the text that was written for them. -/
theorem decode_encode (bs : List UInt8) : decode (encode bs) = .ok bs := by
  have hfrom := decodeFrom_encodeChars 0 bs
  rw [decode, bytes_encode]
  cases hlast : ((encodeChars bs).map Char.toUInt8).getLast? with
  | none =>
    -- nothing was written
    rw [List.getLast?_eq_none_iff] at hlast
    rw [hlast] at hfrom
    exact hfrom
  | some last =>
    -- the last byte is no foreign one
    have hknown : (last != pad && (value? last).isNone) = false := by
      obtain ⟨c, hc, rfl⟩ := List.mem_map.mp (List.mem_of_getLast? hlast)
      rcases mem_encodeChars hc with ⟨n, hn, rfl⟩ | rfl
      · have hvalue : value? (symbol n).toUInt8 = some n := value?_symbolByte n hn
        simp [hvalue]
      · rfl
    simp only [Bool.and_assoc, hknown, Bool.and_false]
    exact hfrom

/-- Symbols are no blanks. -/
theorem unpadded_encode (bs : List UInt8) : Unpadded (encode bs).toList := by
  have hmem : ∀ c ∈ encodeChars bs, isBlankChar c = false := by
    intro c hc
    rcases mem_encodeChars hc with ⟨n, hn, rfl⟩ | rfl
    · exact isBlankChar_symbol n hn
    · rfl
  rw [encode, String.toList_ofList]
  exact ⟨fun c hc => hmem c (List.mem_of_mem_head? hc),
    fun c hc => hmem c (List.mem_of_getLast? hc)⟩

/-- Blanks around the symbols do not count. -/
theorem trim_padded {before after : String} (bs : List UInt8) (hb : isBlank before = true)
    (ha : isBlank after = true) : trim (before ++ encode bs ++ after) = encode bs := by
  rw [trim, String.toList_append, String.toList_append, trimChars_append (List.all_eq_true.mp hb)
    (List.all_eq_true.mp ha), trimChars_eq_self (unpadded_encode bs), String.ofList_toList]

end ManagementModel.Text.Base64
