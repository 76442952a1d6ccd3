import ManagementModel.Text.Utf8

/-!
# ManagementModel — the bytes of a text

The bytes of a text belong to its characters, so they are read back as that text. A character of
ASCII is one byte, with the number of the character.

Main results:

* `decode?_bytes`, `bytes_of_decode?` — a text and its bytes.
* `bytes_ofList_ascii` — the bytes of a text of ASCII.
-/

namespace ManagementModel.Text.Utf8

theorem bytes_ofList (s : List Char) :
    bytes (String.ofList s) = s.flatMap String.utf8EncodeChar := by
  rw [bytes, String.toList_ofList]

/-- The bytes of a text are read as this text. -/
@[simp] theorem decode?_bytes (s : String) : decode? (bytes s) = some s := by
  -- the bytes of a text, as a list and as an array
  have hdata : (bytes s).toByteArray.data = (bytes s).toArray := by
    rw [← List.toList_data_toByteArray (l := bytes s)]
    simp
  have hbytes : (⟨(bytes s).toArray⟩ : ByteArray) = s.toByteArray := by
    rw [← String.utf8Encode_toList, List.utf8Encode, ← bytes]
    exact ByteArray.ext hdata.symm
  -- the bytes are valid, since they are those of a text
  rw [decode?, hbytes, String.fromUTF8?, dif_pos s.isValidUTF8]
  rfl

/-- Bytes that are read as a text are the bytes of that text. -/
theorem bytes_of_decode? {bs : List UInt8} {s : String} (h : decode? bs = some s) :
    bytes s = bs := by
  rw [decode?, String.fromUTF8?] at h
  split at h
  · have hbytes : s.toByteArray = ⟨bs.toArray⟩ := by rw [← Option.some.inj h]; rfl
    rw [← String.utf8Encode_toList, List.utf8Encode, ← bytes] at hbytes
    rw [← List.toList_data_toByteArray (l := bytes s), hbytes]
  · cases h

theorem bytes_inj {s t : String} (h : bytes s = bytes t) : s = t := by
  -- both texts are what is read from their bytes
  have hread := decode?_bytes s
  rw [h, decode?_bytes] at hread
  exact (Option.some.inj hread).symm

theorem toNat_toUInt8 {c : Char} (h : c.toNat < 0x80) : c.toUInt8.toNat = c.toNat := by
  rw [Char.toUInt8, UInt32.toNat_toUInt8]
  exact Nat.mod_eq_of_lt (Nat.lt_trans h (by decide))

/-- A character of ASCII is one byte. -/
theorem utf8EncodeChar_ascii {c : Char} (h : c.toNat < 0x80) :
    String.utf8EncodeChar c = [c.toUInt8] :=
  String.utf8EncodeChar_eq_singleton
    (Char.utf8Size_eq_one_iff.mpr (UInt32.le_iff_toNat_le.mpr (Nat.le_of_lt_succ h)))

/-- A byte of ASCII is a character of its own. -/
theorem toNat_of_mem_utf8EncodeChar {c : Char} {b : UInt8} (h : b ∈ String.utf8EncodeChar c)
    (hb : b.toNat < 0x80) : c.toNat = b.toNat := by
  have hvalue : c.val.toNat = c.toNat := rfl
  simp only [String.utf8EncodeChar, hvalue] at h
  split at h
  · rw [List.mem_singleton.mp h, UInt8.toNat_ofNat']
    omega
  -- all bytes of a longer character are beyond ASCII
  · exfalso
    split at h
    · simp only [List.mem_cons, List.not_mem_nil, or_false] at h
      rcases h with rfl | rfl <;> (rw [UInt8.toNat_ofNat'] at hb; omega)
    · split at h
      · simp only [List.mem_cons, List.not_mem_nil, or_false] at h
        rcases h with rfl | rfl | rfl <;> (rw [UInt8.toNat_ofNat'] at hb; omega)
      · simp only [List.mem_cons, List.not_mem_nil, or_false] at h
        rcases h with rfl | rfl | rfl | rfl <;> (rw [UInt8.toNat_ofNat'] at hb; omega)

/-- A text of ASCII has a byte for each of its characters. -/
theorem bytes_ofList_ascii {s : List Char} (h : ∀ c ∈ s, c.toNat < 0x80) :
    bytes (String.ofList s) = s.map Char.toUInt8 := by
  rw [bytes_ofList]
  induction s with
  | nil => rfl
  | cons c rest ih =>
    obtain ⟨hc, hrest⟩ := List.forall_mem_cons.mp h
    rw [List.flatMap_cons, utf8EncodeChar_ascii hc, ih hrest, List.map_cons, List.singleton_append]

end ManagementModel.Text.Utf8
