import ManagementModel.Decimal.Integer
import Mathlib.Data.List.Induction

/-!
# ManagementModel — texts that spell whole numbers

Digits spell a number place by place: the last digit counts ones, and those before it spell the
number of tens. A sign may stand in front of them. This says what the readers of whole numbers
accept without regard to how they go through a text; they add nothing but the range of their word.

Main results:

* `natural?_eq_some_iff`, `signed?_eq_some_iff` — the readers accept exactly what spells a number.
* `int64?_eq_some_iff`, `uint64?_eq_some_iff` — the same for words with and without a sign.
* `spells_intChars` — what is printed for a whole number spells it.
-/

namespace ManagementModel.Decimal

/-! ## Spellings -/

/-- One or more digits, and the number that they spell. -/
inductive Numeral : List Char → Nat → Prop
  | one {d : Nat} (hd : d < 10) : Numeral [Nat.digitChar d] d
  | more {s : List Char} {n d : Nat} (h : Numeral s n) (hd : d < 10) :
    Numeral (s ++ [Nat.digitChar d]) (n * 10 + d)

/-- A numeral behind an optional sign, and the whole number that they spell. -/
inductive Spells : List Char → Int → Prop
  | plain {s : List Char} {n : Nat} (h : Numeral s n) : Spells s n
  | plus {s : List Char} {n : Nat} (h : Numeral s n) : Spells ('+' :: s) n
  | minus {s : List Char} {n : Nat} (h : Numeral s n) : Spells ('-' :: s) (-n)

/-- The same without a minus sign. -/
inductive SpellsUnsigned : List Char → Nat → Prop
  | plain {s : List Char} {n : Nat} (h : Numeral s n) : SpellsUnsigned s n
  | plus {s : List Char} {n : Nat} (h : Numeral s n) : SpellsUnsigned ('+' :: s) n

/-! ## Digits -/

/-- A digit is read as the number it was printed for. -/
theorem digit?_digitChar : ∀ d < 10, digit? (Nat.digitChar d) = some d := by
  decide

/-- The characters that are read as digits are those that are printed. -/
theorem digit?_eq_some_iff {c : Char} {d : Nat} :
    digit? c = some d ↔ d < 10 ∧ c = Nat.digitChar d := by
  constructor
  · intro h
    unfold digit? at h
    split at h
    · next hrange =>
      simp only [Bool.and_eq_true, decide_eq_true_eq, Char.le_def, UInt32.le_iff_toNat_le] at hrange
      have hlow : 48 ≤ c.toNat := hrange.1
      have hhigh : c.toNat ≤ 57 := hrange.2
      obtain rfl := Option.some.inj h
      -- a character in the range of the digits is the digit of its distance to the first one
      refine ⟨by omega, Char.toNat_inj.mp ?_⟩
      rw [Nat.toNat_digitChar_of_lt_ten (by omega)]
      omega
    · cases h
  · rintro ⟨hd, rfl⟩
    exact digit?_digitChar d hd

/-- The digits that were appended last are read last. -/
theorem appendDigits_concat (n : Nat) (s : List Char) (c : Char) :
    appendDigits n (s ++ [c]) =
      (appendDigits n s).bind fun m => (digit? c).map fun d => m * 10 + d := by
  induction s generalizing n with
  | nil =>
    show appendDigits n [c] = (digit? c).map fun d => n * 10 + d
    unfold appendDigits
    cases digit? c with
    | none => rfl
    | some d => rfl
  | cons c' s ih =>
    -- the first character is read before all others on both sides
    rw [List.cons_append, appendDigits, appendDigits]
    cases digit? c' with
    | none => rfl
    | some d => exact ih _

/-- A digit behind a number counts ones, and the number before it counts tens. -/
theorem natural?_concat {s : List Char} (hs : s ≠ []) (c : Char) :
    natural? (s ++ [c]) = (natural? s).bind fun m => (digit? c).map fun d => m * 10 + d := by
  obtain ⟨c', rest, rfl⟩ := List.exists_cons_of_ne_nil hs
  exact appendDigits_concat 0 (c' :: rest) c

theorem natural?_singleton (c : Char) : natural? [c] = digit? c := by
  show appendDigits 0 [c] = digit? c
  unfold appendDigits
  cases digit? c with
  | none => rfl
  | some d => exact congrArg some (by omega)

theorem Numeral.ne_nil {s : List Char} {n : Nat} (h : Numeral s n) : s ≠ [] := by
  cases h with
  | one => exact List.cons_ne_nil _ _
  | more => exact List.concat_ne_nil _ _

/-- The reader of digits accepts exactly what spells a number. -/
theorem natural?_eq_some_iff {s : List Char} {n : Nat} : natural? s = some n ↔ Numeral s n := by
  constructor
  · intro h
    -- from the last digit on
    induction s using List.reverseRecOn generalizing n with
    | nil => cases h
    | append_singleton s c ih =>
      by_cases hs : s = []
      · -- a single digit
        subst hs
        rw [List.nil_append, natural?_singleton, digit?_eq_some_iff] at h
        obtain ⟨hd, rfl⟩ := h
        exact .one hd
      · -- a digit behind others
        rw [natural?_concat hs, Option.bind_eq_some_iff] at h
        obtain ⟨m, hm, hlast⟩ := h
        obtain ⟨d, hdigit, rfl⟩ := Option.map_eq_some_iff.mp hlast
        obtain ⟨hd, rfl⟩ := digit?_eq_some_iff.mp hdigit
        exact .more (ih hm) hd
  · intro h
    induction h with
    | one hd => rw [natural?_singleton, digit?_digitChar _ hd]
    | more h hd ih =>
      rw [natural?_concat h.ne_nil, ih, digit?_digitChar _ hd]
      rfl

/-- A number does not begin with anything but a digit. -/
theorem not_numeral_cons {c : Char} (hc : digit? c = none) {s : List Char} {n : Nat} :
    ¬ Numeral (c :: s) n := by
  intro h
  have hread : appendDigits 0 (c :: s) = some n := natural?_eq_some_iff.mpr h
  rw [appendDigits, hc] at hread
  cases hread

/-! ## Signs -/

/-- What spells a whole number begins with a sign or a digit. -/
theorem Spells.cases_head {c : Char} {s : List Char} {n : Int} (h : Spells (c :: s) n) :
    c = '+' ∨ c = '-' ∨ digit? c ≠ none := by
  cases h with
  | plain h => exact .inr (.inr fun hc => not_numeral_cons hc h)
  | plus h => exact .inl rfl
  | minus h => exact .inr (.inl rfl)

/-- The reader of signed numbers accepts exactly what spells a whole number. -/
theorem signed?_eq_some_iff {s : List Char} {n : Int} : signed? s = some n ↔ Spells s n := by
  constructor
  · intro h
    unfold signed? at h
    split at h
    · obtain ⟨m, hm, rfl⟩ := Option.map_eq_some_iff.mp h
      exact .plus (natural?_eq_some_iff.mp hm)
    · obtain ⟨m, hm, rfl⟩ := Option.map_eq_some_iff.mp h
      exact .minus (natural?_eq_some_iff.mp hm)
    · obtain ⟨m, hm, rfl⟩ := Option.map_eq_some_iff.mp h
      exact .plain (natural?_eq_some_iff.mp hm)
  · intro h
    cases h with
    | plain h =>
      unfold signed?
      -- a sign is no digit
      split
      · exact absurd h (not_numeral_cons rfl)
      · exact absurd h (not_numeral_cons rfl)
      · rw [natural?_eq_some_iff.mpr h]
        rfl
    | plus h =>
      show (natural? _).map Int.ofNat = _
      rw [natural?_eq_some_iff.mpr h]
      rfl
    | minus h =>
      show (natural? _).map (fun n => -Int.ofNat n) = _
      rw [natural?_eq_some_iff.mpr h]
      rfl

/-! ## Words -/

/-- A word with a sign is read from exactly the texts that spell it. -/
theorem int64?_eq_some_iff {s : String} {v : Int64} :
    int64? s = some v ↔ Spells s.toList v.toInt := by
  rw [← signed?_eq_some_iff, int64?]
  simp only [bind, Option.bind_eq_some_iff]
  constructor
  · rintro ⟨n, hn, h⟩
    split at h
    · next hrange =>
      simp only [Bool.and_eq_true, decide_eq_true_eq] at hrange
      obtain rfl := Option.some.inj h
      rw [hn, Int64.toInt_ofInt_of_le hrange.1 (Int.lt_of_le_of_lt hrange.2 (by decide))]
    · cases h
  · intro h
    -- every word is in range
    refine ⟨v.toInt, h, ?_⟩
    rw [if_pos, Int64.ofInt_toInt]
    rw [Bool.and_eq_true, decide_eq_true_eq, decide_eq_true_eq]
    exact ⟨v.minValue_le_toInt, v.toInt_le⟩

/-- A text is read as a word with a sign if it spells a number in the range of these words. -/
theorem exists_int64?_iff {s : String} : (∃ v, int64? s = some v) ↔
    ∃ n, Spells s.toList n ∧ -0x8000000000000000 ≤ n ∧ n < 0x8000000000000000 := by
  simp only [int64?_eq_some_iff]
  constructor
  · rintro ⟨v, h⟩
    exact ⟨v.toInt, h, v.le_toInt, v.toInt_lt⟩
  · rintro ⟨n, h, hlow, hhigh⟩
    refine ⟨Int64.ofInt n, ?_⟩
    rwa [Int64.toInt_ofInt_of_le hlow hhigh]

/-- A word without a sign is read from exactly the texts that spell it. -/
theorem uint64?_eq_some_iff {s : String} {v : UInt64} :
    uint64? s = some v ↔ SpellsUnsigned s.toList v.toNat := by
  -- what the reader does with the digits behind a sign
  have hword : ∀ digits, (do
      let n ← natural? digits
      if n < UInt64.size then some n.toUInt64 else none) = some v ↔ Numeral digits v.toNat := by
    intro digits
    rw [← natural?_eq_some_iff]
    simp only [bind, Option.bind_eq_some_iff]
    constructor
    · rintro ⟨n, hn, h⟩
      split at h
      · next hlt =>
        obtain rfl := Option.some.inj h
        rw [hn, Nat.toUInt64_eq, UInt64.toNat_ofNat_of_lt' hlt]
      · cases h
    · intro h
      exact ⟨v.toNat, h, by rw [if_pos v.toNat_lt, Nat.toUInt64_eq, UInt64.ofNat_toNat]⟩
  unfold uint64?
  rw [hword]
  split
  · next rest hs =>
    -- a plus sign comes first, which is no digit
    rw [hs]
    constructor
    · exact .plus
    · intro h
      cases h with
      | plain h => exact absurd h (not_numeral_cons rfl)
      | plus h => exact h
  · next hs =>
    constructor
    · exact .plain
    · intro h
      -- no plus sign comes first
      generalize s.toList = digits at h hs ⊢
      cases h with
      | plain h => exact h
      | plus h => exact absurd rfl (hs _)

/-- A text is read as a word without a sign if it spells a number that such a word has. -/
theorem exists_uint64?_iff {s : String} : (∃ v, uint64? s = some v) ↔
    ∃ n, SpellsUnsigned s.toList n ∧ n < 0x10000000000000000 := by
  simp only [uint64?_eq_some_iff]
  constructor
  · rintro ⟨v, h⟩
    exact ⟨v.toNat, h, v.toNat_lt⟩
  · rintro ⟨n, h, hlt⟩
    refine ⟨UInt64.ofNat n, ?_⟩
    rwa [UInt64.toNat_ofNat_of_lt' hlt]

/-! ## Printed numbers -/

/-- The digits that are printed for a number spell it. -/
theorem numeral_natChars (n : Nat) : Numeral (natChars n) n := by
  induction n using Nat.strongRecOn with
  | ind n ih =>
    by_cases hlt : n < 10
    · rw [natChars, Nat.toDigits_of_lt_base hlt]
      exact .one hlt
    · -- all digits but the last are those of the tenth
      have hsplit : n / 10 * 10 + n % 10 = n := by omega
      have h := Numeral.more (ih (n / 10) (by omega)) (Nat.mod_lt n (by decide : 0 < 10))
      rw [hsplit] at h
      rwa [natChars, Nat.toDigits_of_base_le (by decide) (by omega)]

theorem spells_intChars (n : Int) : Spells (intChars n) n := by
  cases n with
  | ofNat n => exact .plain (numeral_natChars n)
  | negSucc n => exact .minus (numeral_natChars (n + 1))

end ManagementModel.Decimal
