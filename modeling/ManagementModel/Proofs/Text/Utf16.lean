import ManagementModel.Text.Utf16

/-!
# ManagementModel — texts and their sixteen bit units

Joining units into characters is the inverse of cutting characters into units. A sequence of units
is well formed, that is, each of its surrogates stands in a pair, exactly when it consists of the
units of some text, and that text is the one that is read.

Main results:

* `charsOnto_units` — the units of a text are read back as this text.
* `eq_units_of_charsOnto` — what is read has exactly the units that were given.
* `chars?_eq_some_iff` — both in one statement.
* `chars?_eq_none_iff` — units that are not read have a surrogate without its partner.
-/

namespace ManagementModel.Text.Utf16

/-! ## Surrogates and characters as numbers -/

theorem isLeading_iff (u : UInt16) :
    isLeading u = true ↔ 0xd800 ≤ u.toNat ∧ u.toNat ≤ 0xdbff := by
  simp [isLeading, UInt16.le_iff_toNat_le]

theorem isTrailing_iff (u : UInt16) :
    isTrailing u = true ↔ 0xdc00 ≤ u.toNat ∧ u.toNat ≤ 0xdfff := by
  simp [isTrailing, UInt16.le_iff_toNat_le]

theorem toNat_toUInt16 {n : Nat} (h : n < 0x10000) : n.toUInt16.toNat = n := by
  simp [Nat.mod_eq_of_lt h]

/-- A character is no surrogate and lies below the end of the code space. -/
theorem toNat_bounds (c : Char) :
    (c.toNat < 0xd800 ∨ 0xdfff < c.toNat) ∧ c.toNat < 0x110000 := by
  have h := c.valid
  simp only [UInt32.isValidChar, Nat.isValidChar, Char.toNat_val] at h
  omega

theorem toNat_ofNat {n : Nat} (h : n.isValidChar) : (Char.ofNat n).toNat = n := by
  rw [Char.ofNat, dif_pos h]
  rfl

/-! ## One character -/

theorem charsOnto_single {u : UInt16} (acc : List Char) (us : List UInt16)
    (hl : ¬ isLeading u = true) (ht : ¬ isTrailing u = true) :
    charsOnto acc (u :: us) = charsOnto (Char.ofNat u.toNat :: acc) us := by
  rw [charsOnto.eq_def]
  simp [hl, ht]

theorem charsOnto_pair {u v : UInt16} (acc : List Char) (us : List UInt16)
    (hl : isLeading u = true) (ht : isTrailing v = true) :
    charsOnto acc (u :: v :: us) = charsOnto (charOfPair u v :: acc) us := by
  rw [charsOnto.eq_def]
  simp [hl, ht]

/-- The units of one character are read as this character, whatever follows. -/
theorem charsOnto_unitsOfChar (acc : List Char) (c : Char) (us : List UInt16) :
    charsOnto acc (unitsOfChar c ++ us) = charsOnto (c :: acc) us := by
  have hc := toNat_bounds c
  rw [unitsOfChar]
  split
  · next h =>
    -- one unit, which is no surrogate
    have hu := toNat_toUInt16 h
    rw [List.singleton_append, charsOnto_single, hu, Char.ofNat_toNat]
    · rw [isLeading_iff, hu]
      omega
    · rw [isTrailing_iff, hu]
      omega
  · next h =>
    -- a pair of surrogates
    have hhi : (0xd800 + (c.toNat - 0x10000) / 0x400).toUInt16.toNat =
        0xd800 + (c.toNat - 0x10000) / 0x400 := toNat_toUInt16 (by omega)
    have hlo : (0xdc00 + (c.toNat - 0x10000) % 0x400).toUInt16.toNat =
        0xdc00 + (c.toNat - 0x10000) % 0x400 := toNat_toUInt16 (by omega)
    rw [List.cons_append, List.singleton_append, charsOnto_pair, charOfPair, hhi, hlo]
    · -- ten bits come from each surrogate
      rw [show 0x10000 + (0xd800 + (c.toNat - 0x10000) / 0x400 - 0xd800) * 0x400 +
        (0xdc00 + (c.toNat - 0x10000) % 0x400 - 0xdc00) = c.toNat by omega, Char.ofNat_toNat]
    · rw [isLeading_iff, hhi]
      omega
    · rw [isTrailing_iff, hlo]
      omega

/-- A unit that is no surrogate is the only unit of its character. -/
theorem unitsOfChar_ofNat {u : UInt16} (hl : ¬ isLeading u = true) (ht : ¬ isTrailing u = true) :
    unitsOfChar (Char.ofNat u.toNat) = [u] := by
  have hu := u.toNat_lt
  rw [isLeading_iff] at hl
  rw [isTrailing_iff] at ht
  -- the number of the unit is one of a character
  have hn : (Char.ofNat u.toNat).toNat = u.toNat := by
    apply toNat_ofNat
    unfold Nat.isValidChar
    omega
  rw [unitsOfChar, hn, if_pos (by omega)]
  simp

/-- The units of the character of a surrogate pair are this pair. -/
theorem unitsOfChar_charOfPair {u v : UInt16} (hl : isLeading u = true)
    (ht : isTrailing v = true) : unitsOfChar (charOfPair u v) = [u, v] := by
  rw [isLeading_iff] at hl
  rw [isTrailing_iff] at ht
  -- the character lies beyond `0xffff`
  have hn : (charOfPair u v).toNat =
      0x10000 + (u.toNat - 0xd800) * 0x400 + (v.toNat - 0xdc00) := by
    apply toNat_ofNat
    unfold Nat.isValidChar
    omega
  -- the surrogates are the two halves of ten bits each
  have hhi : 0xd800 + ((charOfPair u v).toNat - 0x10000) / 0x400 = u.toNat := by omega
  have hlo : 0xdc00 + ((charOfPair u v).toNat - 0x10000) % 0x400 = v.toNat := by omega
  rw [unitsOfChar, if_neg (by omega), hhi, hlo]
  simp

/-! ## Whole texts -/

@[simp]
theorem units_cons (c : Char) (cs : List Char) : units (c :: cs) = unitsOfChar c ++ units cs :=
  rfl

/-- The units of some characters are read as these characters. -/
theorem charsOnto_units (acc cs : List Char) :
    charsOnto acc (units cs) = some (acc.reverse ++ cs) := by
  induction cs generalizing acc with
  | nil => simp [units, charsOnto]
  | cons c rest ih =>
    rw [units_cons, charsOnto_unitsOfChar, ih]
    simp

/-- Units that are read are the units of the characters that are read. -/
theorem eq_units_of_charsOnto {acc cs : List Char} {us : List UInt16}
    (h : charsOnto acc us = some cs) : ∃ ds, cs = acc.reverse ++ ds ∧ us = units ds := by
  fun_induction charsOnto acc us with
  -- in all other cases the reader has refused
  | case1 acc => exact ⟨[], by simp_all, rfl⟩
  | case2 acc u hl v rest ht ih =>
    -- a surrogate pair
    obtain ⟨ds, rfl, rfl⟩ := ih h
    refine ⟨charOfPair u v :: ds, by simp, ?_⟩
    rw [units_cons, unitsOfChar_charOfPair hl ht]
    rfl
  | case6 acc u rest hl ht ih =>
    -- a unit that is no surrogate
    obtain ⟨ds, rfl, rfl⟩ := ih h
    refine ⟨Char.ofNat u.toNat :: ds, by simp, ?_⟩
    rw [units_cons, unitsOfChar_ofNat hl ht]
    rfl
  | _ => simp at h

/-- Units spell a text exactly when they are its units. -/
theorem chars?_eq_some_iff {us : List UInt16} {cs : List Char} :
    chars? us = some cs ↔ us = units cs := by
  constructor
  · intro h
    obtain ⟨ds, rfl, rfl⟩ := eq_units_of_charsOnto h
    rfl
  · rintro rfl
    exact charsOnto_units [] cs

/-! ## Surrogates without a partner -/

/-- Behind the units of some characters a surrogate stands alone: a leading one that no trailing one
follows, or a trailing one. -/
inductive LoneSurrogate : List UInt16 → Prop
  | leading {cs : List Char} {u : UInt16} {rest : List UInt16} (hu : isLeading u = true)
    (hrest : ∀ v ∈ rest.head?, isTrailing v = false) : LoneSurrogate (units cs ++ u :: rest)
  | trailing {cs : List Char} {u : UInt16} {rest : List UInt16} (hu : isTrailing u = true) :
    LoneSurrogate (units cs ++ u :: rest)

/-- Characters in front do not give a surrogate its partner. -/
theorem LoneSurrogate.behind {us : List UInt16} (h : LoneSurrogate us) (c : Char) :
    LoneSurrogate (unitsOfChar c ++ us) := by
  cases h with
  | @leading cs u rest hu hrest =>
    rw [← List.append_assoc, ← units_cons]
    exact .leading hu hrest
  | @trailing cs u rest hu =>
    rw [← List.append_assoc, ← units_cons]
    exact .trailing hu

/-- The units of some characters are read first, whatever follows them. -/
theorem charsOnto_units_append (acc cs : List Char) (us : List UInt16) :
    charsOnto acc (units cs ++ us) = charsOnto (cs.reverse ++ acc) us := by
  induction cs generalizing acc with
  | nil => rfl
  | cons c rest ih =>
    rw [units_cons, List.append_assoc, charsOnto_unitsOfChar, ih, List.reverse_cons,
      List.append_assoc, List.singleton_append]

/-- Where the reader finds no characters, a surrogate stands alone. -/
theorem loneSurrogate_of_charsOnto {acc : List Char} {us : List UInt16}
    (h : charsOnto acc us = none) : LoneSurrogate us := by
  fun_induction charsOnto acc us with
  | case1 acc => simp at h
  | case2 acc u hl v rest ht ih =>
    -- a pair is a character, so the fault lies behind it
    have hpair := (ih h).behind (charOfPair u v)
    rwa [unitsOfChar_charOfPair hl ht] at hpair
  | case3 acc u hl v rest ht =>
    -- another unit follows a leading surrogate
    show LoneSurrogate (units [] ++ u :: v :: rest)
    refine .leading hl ?_
    rintro w ⟨⟩
    exact Bool.eq_false_iff.mpr ht
  | case4 acc u hl =>
    -- the end follows a leading surrogate
    show LoneSurrogate (units [] ++ [u])
    exact .leading hl nofun
  | case5 acc u rest hl ht =>
    -- a trailing surrogate without one in front
    show LoneSurrogate (units [] ++ u :: rest)
    exact .trailing ht
  | case6 acc u rest hl ht ih =>
    -- a unit by itself is a character, so the fault lies behind it
    have hsingle := (ih h).behind (Char.ofNat u.toNat)
    rwa [unitsOfChar_ofNat hl ht] at hsingle

/-- Where a surrogate stands alone, the reader finds no characters. -/
theorem charsOnto_of_loneSurrogate {us : List UInt16} (h : LoneSurrogate us) (acc : List Char) :
    charsOnto acc us = none := by
  cases h with
  | @leading cs u rest hu hrest =>
    rw [charsOnto_units_append, charsOnto.eq_def]
    dsimp only
    rw [if_pos hu]
    -- neither the end nor another unit completes the pair
    cases rest with
    | nil => rfl
    | cons v rest => exact if_neg (by simp [hrest v rfl])
  | @trailing cs u rest hu =>
    -- no unit is a surrogate of both kinds
    have hl : ¬ isLeading u = true := by
      rw [isTrailing_iff] at hu
      rw [isLeading_iff]
      omega
    rw [charsOnto_units_append, charsOnto.eq_def]
    dsimp only
    rw [if_neg hl, if_pos hu]

/-- Units spell no text exactly when one of their surrogates stands alone. -/
theorem chars?_eq_none_iff {us : List UInt16} : chars? us = none ↔ LoneSurrogate us :=
  ⟨loneSurrogate_of_charsOnto, fun h => charsOnto_of_loneSurrogate h []⟩

end ManagementModel.Text.Utf16
