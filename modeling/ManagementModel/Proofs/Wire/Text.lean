import ManagementModel.Proofs.Text.Misspelling
import ManagementModel.Proofs.Wire.Canonical
import ManagementModel.Proofs.Wire.Reads

/-!
# ManagementModel — a text behind its length

A text is carried as the number of its bytes and the bytes themselves. The reader takes as many
bytes as are announced, and what follows has no part in the text, even if it would complete a group
that the announced bytes leave unfinished. Whatever the bytes are, they are read as the text that
they spell, or refused as malformed. The writer announces and writes the tight spelling.

Main results:

* `text_field` — what the reader does with announced bytes.
* `writeText_eq_field_iff` — which announced bytes the writer writes for a text.
* `reads_spellings` — both, for all bytes that can be announced.
-/

namespace ManagementModel.Wire

open Text.ModifiedUtf8 (Group Spelling Misspelled Tight decode? encode decode?_eq_some_iff
  decode?_eq_none_iff not_exists_spelling_iff tight_iff)

/-- Bytes behind their number. -/
def field (bs : List UInt8) : List UInt8 := bigEndian 2 bs.length ++ bs

variable {bs : List UInt8}

/-- The announced bytes are decoded, and what follows is left. -/
theorem text_field (hb : bs.length ≤ maxTextLength) (rest : List UInt8) :
    text (field bs ++ rest) =
      match decode? bs with
      | some s => .ok (s, rest)
      | none => .error .malformedText := by
  have hnumber : number 2 (field bs ++ rest) = .ok (bs.length, bs ++ rest) := by
    rw [field, List.append_assoc]
    exact (reads_number 2).apply (numberForm_bigEndian (Nat.lt_succ_of_le hb)) _
  have htake : take bs.length (bs ++ rest) = .ok (bs, rest) :=
    (reads_take bs.length).apply ⟨rfl, rfl⟩ rest
  -- the number is read, and then the bytes that it announces
  unfold text
  rw [bind_of_ok hnumber, bind_of_ok htake]
  cases decode? bs with
  | some s => rfl
  | none => rfl

/-- The announced bytes that are written for a text are its tight spelling. -/
theorem writeText_eq_field_iff (hb : bs.length ≤ maxTextLength) {s : String} :
    writeText s = .ok (field bs) ↔ Tight bs s := by
  rw [tight_iff]
  unfold writeText field
  dsimp only
  constructor
  · intro h
    split at h
    · -- both numbers take two bytes, so what stands behind them is the same
      have hlen : (bigEndian 2 (encode s).length).length = (bigEndian 2 bs.length).length := by
        rw [length_bigEndian, length_bigEndian]
      exact (List.append_inj (Except.ok.inj h) hlen).2.symm
    · cases h
  · rintro rfl
    rw [if_pos hb]

/-- Announced bytes are read as a text exactly if they spell it, and then they alone are taken. All
others are refused as malformed: somewhere behind groups no group begins, or a surrogate stands
alone. Of all spellings of a text that can be announced, the writer writes the only one without a
raw zero byte and without overlong groups. -/
theorem reads_spellings (hb : bs.length ≤ 65535) (rest : List UInt8) :
    (∀ s left, text (field bs ++ rest) = .ok (s, left) ↔ Spelling bs s ∧ left = rest) ∧
    (text (field bs ++ rest) = .error .malformedText ↔ ¬ ∃ s, Spelling bs s) ∧
    ((¬ ∃ s, Spelling bs s) ↔ Misspelled bs) ∧
    ∀ s, writeText s = .ok (field bs) ↔ Tight bs s := by
  have hread := text_field hb rest
  refine ⟨?_, ?_, not_exists_spelling_iff, fun s => writeText_eq_field_iff hb⟩
  · intro s left
    -- the bytes spell at most one text, and they are taken whole
    rw [hread, ← decode?_eq_some_iff]
    cases decode? bs with
    | some t => simp [eq_comm]
    | none => simp
  · rw [hread, not_exists_spelling_iff, ← decode?_eq_none_iff]
    cases decode? bs with
    | some t => simp
    | none => simp

/-- An overlong group and a raw zero are read. A group that only the byte behind the announced ones
would complete is not, but it is when that byte is announced too. -/
theorem reads_spellings_cut_off :
    text (field [0xc1, 0x81, 0x00] ++ [0xff]) = .ok ("A\x00", [0xff]) ∧
      text (field [0x41, 0xe2, 0x82] ++ [0xac]) = .error .malformedText ∧
      text (field [0xe2, 0x82, 0xac] ++ []) = .ok ("€", []) ∧
      writeText "A\x00" ≠ .ok (field [0xc1, 0x81, 0x00]) := by
  obtain ⟨hliberal, -, -, hwritten⟩ :=
    @reads_spellings [0xc1, 0x81, 0x00] (by decide) [0xff]
  obtain ⟨-, hrefused, hmisspelled, -⟩ :=
    @reads_spellings [0x41, 0xe2, 0x82] (by decide) [0xac]
  obtain ⟨hwhole, -⟩ := @reads_spellings [0xe2, 0x82, 0xac] (by decide) []
  -- the groups of the three texts
  have hletter : Group [0xc1, 0x81] 0x41 := .two (x := 1) (y := 1) (by decide) (by decide)
  have hzero : Group [0x00] 0 := .one (x := 0) (by decide)
  have heuro : Group [0xe2, 0x82, 0xac] 0x20ac :=
    .three (x := 2) (y := 2) (z := 44) (by decide) (by decide) (by decide)
  have hunits : Text.Utf16.units "A\x00".toList = [0x41, 0] := by decide +kernel
  have hunit : Text.Utf16.units "€".toList = [0x20ac] := by decide +kernel
  refine ⟨(hliberal _ _).mpr ⟨⟨[[0xc1, 0x81], [0x00]], ?_, rfl⟩, rfl⟩, ?_,
    (hwhole _ _).mpr ⟨⟨[[0xe2, 0x82, 0xac]], ?_, rfl⟩, rfl⟩, ?_⟩
  · rw [hunits]
    exact .cons hletter (.cons hzero .nil)
  · -- behind the first letter a group of three has two bytes
    refine hrefused.mpr (hmisspelled.mpr ?_)
    show Misspelled ([[0x41]].flatten ++ [0xe2, 0x82])
    refine .stuck (.cons (.one (x := 0x41) (by decide)) .nil) (.three (by decide) ?_)
    rintro b c more ⟨⟩
  · rw [hunit]
    exact .cons heuro .nil
  · intro h
    exact ((hwritten _).mp h).zeroFree (by decide)

end ManagementModel.Wire
