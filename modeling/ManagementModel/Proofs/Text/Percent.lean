import ManagementModel.Proofs.Text.Utf8
import ManagementModel.Text.Percent

/-!
# ManagementModel — percent encoding is undone by decoding

An encoded text consists of characters that are not reserved, percent signs and digits. Decoding
leaves the first of them as they are and joins the rest to bytes again. The percent sign has to be
reserved itself, since otherwise one that was in the text could not be told from one that came in.

Main results:

* `mem_encode` — the characters of an encoded text.
* `unescape?_encode` — an encoded text is read back.
-/

namespace ManagementModel.Text.Percent

/-! ## Digits -/

theorem upperDigit_ascii : ∀ n < 16, (upperDigit n).toNat < 0x80 := by
  decide

theorem upperDigit_isAlphanum : ∀ n < 16, (upperDigit n).isAlphanum = true := by
  decide

theorem hexValue?_upperDigit :
    ∀ n < 16, hexValue? (upperDigit n).toUInt8 = some n.toUInt8 := by
  decide

/-! ## One byte -/

/-- A byte that is no percent sign is decoded to itself. -/
theorem decode_cons_of_ne {b : UInt8} (h : b ≠ 37) (rest : List UInt8) :
    decode (b :: rest) = b :: decode rest := by
  rw [decode.eq_def]
  split
  · next heq => exact absurd (List.cons.inj heq).1 h
  · next heq =>
    obtain ⟨rfl, rfl⟩ := List.cons.inj heq
    rfl
  · next heq => cases heq

/-- A byte that is neither a percent sign nor a digit stays when what is around it is decoded. -/
theorem mem_decode {b : UInt8} (hpercent : b ≠ 37) (hdigit : hexValue? b = none) {bs : List UInt8}
    (h : b ∈ bs) : b ∈ decode bs := by
  induction bs using decode.induct with
  | case1 x y rest m n hy hx ih =>
    -- a percent sign and two digits become one byte, but the byte is none of the three
    have hx' : b ≠ x := by
      rintro rfl
      rw [hdigit] at hx
      cases hx
    have hy' : b ≠ y := by
      rintro rfl
      rw [hdigit] at hy
      cases hy
    simp only [List.mem_cons, hpercent, hx', hy', false_or] at h
    rw [decode, hx, hy]
    exact List.mem_cons_of_mem _ (ih h)
  | case2 x y rest hnone ih =>
    -- a percent sign without two digits stays, and so does what follows it
    rw [List.mem_cons, or_iff_right hpercent] at h
    have hdecode : decode (37 :: x :: y :: rest) = 37 :: decode (x :: y :: rest) := by
      rw [decode]
      split
      · next m n hx hy => exact absurd hy (hnone m n hx)
      · rfl
    rw [hdecode]
    exact List.mem_cons_of_mem _ (ih h)
  | case3 x rest hne ih =>
    -- any other byte stays
    have hdecode : decode (x :: rest) = x :: decode rest := by
      rw [decode]
      exact hne
    rw [hdecode]
    rcases List.mem_cons.mp h with rfl | h
    · exact List.mem_cons_self
    · exact List.mem_cons_of_mem _ (ih h)
  | case4 => cases h

/-- A percent sign and two digits are the byte that they were written for. -/
theorem decode_encodeByte (b : UInt8) (rest : List UInt8) :
    decode ((encodeByte b).map Char.toUInt8 ++ rest) = b :: decode rest := by
  have hb := b.toNat_lt
  -- the two digits stand for the halves of the byte
  have hhigh := hexValue?_upperDigit (b.toNat / 16) (by omega)
  have hlow := hexValue?_upperDigit (b.toNat % 16) (by omega)
  have hjoin : (b.toNat / 16).toUInt8 * 16 + (b.toNat % 16).toUInt8 = b := by
    apply UInt8.toNat_inj.mp
    rw [UInt8.toNat_add, UInt8.toNat_mul, UInt8.toNat_ofNat', UInt8.toNat_ofNat']
    simp only [UInt8.reduceToNat]
    omega
  have hpercent : '%'.toUInt8 = 37 := rfl
  simp only [encodeByte, List.map_cons, List.map_nil, List.cons_append, List.nil_append, hpercent]
  rw [decode, hhigh, hlow]
  simp only [hjoin]

/-- Encoded bytes are decoded to these bytes, whatever follows them. -/
theorem decode_flatMap_encodeByte (bs rest : List UInt8) :
    decode ((bs.flatMap encodeByte).map Char.toUInt8 ++ rest) = bs ++ decode rest := by
  induction bs with
  | nil => rfl
  | cons b bs ih =>
    rw [List.flatMap_cons, List.map_append, List.append_assoc, decode_encodeByte, ih,
      List.cons_append]

/-! ## Texts -/

variable {reserved : Char → Bool}

/-- An encoded text consists of percent signs, digits, and the characters of ASCII in it that are
not reserved. -/
theorem mem_encode {s : List Char} {c : Char} (h : c ∈ encode reserved s) :
    c = '%' ∨ (∃ n < 16, c = upperDigit n) ∨ (c ∈ s ∧ c.toNat < 0x80 ∧ reserved c = false) := by
  obtain ⟨d, hd, hc⟩ := List.mem_flatMap.mp h
  split at hc
  · -- the bytes of the character are encoded
    obtain ⟨b, -, hc⟩ := List.mem_flatMap.mp hc
    have hb := b.toNat_lt
    simp only [encodeByte, List.mem_cons, List.not_mem_nil, or_false] at hc
    rcases hc with rfl | rfl | rfl
    · exact .inl rfl
    · exact .inr (.inl ⟨_, by omega, rfl⟩)
    · exact .inr (.inl ⟨_, by omega, rfl⟩)
  · -- the character is kept
    next hplain =>
    obtain rfl := List.mem_singleton.mp hc
    simp only [Bool.or_eq_true, decide_eq_true_eq, not_or, Nat.not_le, Bool.not_eq_true] at hplain
    exact .inr (.inr ⟨hd, hplain⟩)

theorem mem_encode_of_mem {s : List Char} {c : Char} (h : c ∈ s) (hascii : c.toNat < 0x80)
    (hfree : reserved c = false) : c ∈ encode reserved s := by
  refine List.mem_flatMap.mpr ⟨c, h, ?_⟩
  rw [if_neg (by simp [hascii, hfree])]
  exact List.mem_singleton_self c

/-- Encoding brings in percent signs and digits only. -/
theorem notMem_encode_of_notMem {s : List Char} {c : Char} (h : c ∉ s) (hpercent : c ≠ '%')
    (hdigit : c.isAlphanum = false) : c ∉ encode reserved s := by
  intro hc
  rcases mem_encode hc with rfl | ⟨n, hn, rfl⟩ | ⟨hc, -⟩
  · exact hpercent rfl
  · rw [upperDigit_isAlphanum n hn] at hdigit
    cases hdigit
  · exact h hc

theorem encode_ascii {s : List Char} {c : Char} (h : c ∈ encode reserved s) : c.toNat < 0x80 := by
  rcases mem_encode h with rfl | ⟨n, hn, rfl⟩ | ⟨-, hc, -⟩
  · decide
  · exact upperDigit_ascii n hn
  · exact hc

section

variable (hdigits : ∀ n < 16, reserved (upperDigit n) = false) {s : List Char}

include hdigits

/-- Apart from percent signs nothing is reserved in an encoded text. -/
theorem not_reserved_of_mem_encode {c : Char} (h : c ∈ encode reserved s) :
    c = '%' ∨ reserved c = false := by
  rcases mem_encode h with rfl | ⟨n, hn, rfl⟩ | ⟨-, -, hc⟩
  · exact .inl rfl
  · exact .inr (hdigits n hn)
  · exact .inr hc

/-- A separator that is reserved does not stand in an encoded text. -/
theorem notMem_encode {sep : Char} (hsep : reserved sep = true) (hne : sep ≠ '%') :
    sep ∉ encode reserved s := by
  intro h
  rcases not_reserved_of_mem_encode hdigits h with rfl | hfree
  · exact hne rfl
  · rw [hsep] at hfree
    cases hfree

end

/-- The bytes that an encoded text spells are those of the text. -/
theorem decode_encode (hpercent : reserved '%' = true) (s : List Char) :
    decode ((encode reserved s).map Char.toUInt8) = s.flatMap String.utf8EncodeChar := by
  induction s with
  | nil => rfl
  | cons c rest ih =>
    have hcons : encode reserved (c :: rest) =
        (if 0x80 ≤ c.toNat || reserved c then (String.utf8EncodeChar c).flatMap encodeByte
          else [c]) ++ encode reserved rest := rfl
    rw [hcons, List.map_append, List.flatMap_cons]
    -- what is encoded is decoded byte by byte, and what is not is one byte that decodes to itself
    split
    · rw [decode_flatMap_encodeByte, ih]
    · next hplain =>
      simp only [Bool.or_eq_true, decide_eq_true_eq, not_or, Nat.not_le, Bool.not_eq_true] at hplain
      obtain ⟨hascii, hfree⟩ := hplain
      -- the percent sign is reserved, so this is another character
      have hne : c.toUInt8 ≠ 37 := by
        intro h
        have hnat : c.toNat = 37 := by rw [← Utf8.toNat_toUInt8 hascii, h]; rfl
        have hc : c = '%' := Char.toNat_inj.mp hnat
        rw [hc, hpercent] at hfree
        cases hfree
      rw [List.map_singleton, List.singleton_append, decode_cons_of_ne hne, ih,
        Utf8.utf8EncodeChar_ascii hascii, List.singleton_append]

/-- The text that a text with percent signs spells, if its bytes are those of a text. -/
def unescape? (s : List Char) : Option String :=
  Utf8.decode? (decode (Utf8.bytes (String.ofList s)))

/-- An encoded text is read as the text, as long as the percent sign is reserved. -/
theorem unescape?_encode (hpercent : reserved '%' = true) (s : String) :
    unescape? (encode reserved s.toList) = some s := by
  rw [unescape?, Utf8.bytes_ofList_ascii fun _ => encode_ascii, decode_encode hpercent]
  exact Utf8.decode?_bytes s

/-- Nothing is encoded where there is no need to. -/
theorem encode_eq_self {s : List Char} (h : ∀ c ∈ s, c.toNat < 0x80 ∧ reserved c = false) :
    encode reserved s = s := by
  induction s with
  | nil => rfl
  | cons c rest ih =>
    obtain ⟨⟨hascii, hfree⟩, hrest⟩ := List.forall_mem_cons.mp h
    have hrest' : encode reserved rest = rest := ih hrest
    rw [encode, List.flatMap_cons, if_neg (by simp [hascii, hfree]), List.singleton_append]
    exact congrArg _ hrest'

/-- A text without percent signs in its encoding has nothing to encode. -/
theorem encode_eq_self_of_notMem {s : List Char} (h : '%' ∉ encode reserved s) :
    encode reserved s = s := by
  refine encode_eq_self fun c hc => ?_
  cases hreserved : (0x80 ≤ c.toNat || reserved c) with
  | false =>
    simp only [Bool.or_eq_false_iff, decide_eq_false_iff_not, Nat.not_le] at hreserved
    exact hreserved
  | true =>
    -- an encoded character would bring in a percent sign
    refine absurd (List.mem_flatMap.mpr ⟨c, hc, ?_⟩) h
    rw [if_pos hreserved]
    -- every character has a byte, and every byte begins with a percent sign
    obtain ⟨b, hb⟩ := List.exists_mem_of_ne_nil _ String.utf8EncodeChar_ne_nil
    exact List.mem_flatMap.mpr ⟨b, hb, List.mem_cons_self⟩

end ManagementModel.Text.Percent
