import ManagementModel.Json.Printer
import ManagementModel.Json.Reader
import ManagementModel.Proofs.Decimal.Integer

/-!
# ManagementModel — printed words are read back

The words of a document are read back from what is printed for them: a string character by
character, each of which is itself or an escape, and a whole number digit by digit, up to something
that cannot belong to it. Apart from that, neither depends on what follows.

Main results:

* `stringBody_quote` — a string is read back.
* `scalar_whole` — a whole number is read back.
-/

namespace ManagementModel.Json.Reader

open Decimal (digit? digit?_digitChar natChars intChars)

/-! ## Strings -/

theorem hexDigit?_digitChar : ∀ n < 16, Text.hexDigit? (Nat.digitChar n) = some n := by
  decide

theorem utf8Size_digitChar : ∀ n < 16, (Nat.digitChar n).utf8Size = 1 := by
  decide

/-- Four digits with the value of a control character. -/
theorem hexUnit_control {n : Nat} (hn : n < 0x20) (rest : List Char) :
    hexUnit ('0' :: '0' :: Nat.digitChar (n / 16) :: Nat.digitChar (n % 16) :: rest) =
      .ok (n, rest) := by
  have hhigh : n / 16 < 16 := by omega
  have hlow : n % 16 < 16 := by omega
  have hsize : Text.Utf8.size ['0', '0', Nat.digitChar (n / 16), Nat.digitChar (n % 16)] = 4 := by
    simp only [Text.Utf8.size, List.foldl_cons, List.foldl_nil, utf8Size_digitChar _ hhigh,
      utf8Size_digitChar _ hlow]
    rfl
  have hdigits : ['0', '0', Nat.digitChar (n / 16), Nat.digitChar (n % 16)].mapM Text.hexDigit? =
      some [0, 0, n / 16, n % 16] := by
    simp only [List.mapM_cons, List.mapM_nil, hexDigit?_digitChar _ hhigh,
      hexDigit?_digitChar _ hlow]
    rfl
  have hvalue : [0, 0, n / 16, n % 16].foldl (fun n d => n * 16 + d) 0 = n := by
    simp only [List.foldl_cons, List.foldl_nil]
    omega
  have htake : ('0' :: '0' :: Nat.digitChar (n / 16) :: Nat.digitChar (n % 16) :: rest).take 4 =
      ['0', '0', Nat.digitChar (n / 16), Nat.digitChar (n % 16)] := rfl
  -- the four digits take four bytes, so none of them is cut off
  rw [hexUnit, htake, if_neg (by rw [hsize]; decide), hdigits]
  simp only [hvalue]
  rfl

/-- A control character is read back from the four digits of its escape. -/
theorem escaped_control {c : Char} (hc : c.toNat < 0x20) (rest : List Char) :
    escaped ('u' :: '0' :: '0' :: Nat.digitChar (c.toNat / 16) :: Nat.digitChar (c.toNat % 16) ::
      rest) = .ok (c, rest) := by
  have hunicode : escaped ('u' :: '0' :: '0' :: Nat.digitChar (c.toNat / 16) ::
      Nat.digitChar (c.toNat % 16) :: rest) = unicodeEscape ('0' :: '0' ::
        Nat.digitChar (c.toNat / 16) :: Nat.digitChar (c.toNat % 16) :: rest) := rfl
  rw [hunicode, unicodeEscape]
  simp only [bind, StateT.bind, hexUnit_control hc, Except.bind]
  -- a control character is no surrogate
  rw [if_neg (by simp; omega), if_neg (by simp; omega), Char.ofNat_toNat]
  rfl

/-- One round of the reader looks at one character. -/
theorem stringOnto_cons (acc : List Char) (fuel : Nat) (c : Char) (rest : List Char) :
    stringOnto acc (fuel + 1) (c :: rest) =
      if c == '"' then .ok (acc.reverse, rest)
      else if c == '\\' then
        match escaped rest with
        | .ok (e, rest) => stringOnto (e :: acc) fuel rest
        | .error fault => .error fault
      else if c.toNat < 0x20 then failBefore .controlCharacter rest
      else stringOnto (c :: acc) fuel rest :=
  rfl

/-- One round of the reader takes one character that was printed. -/
theorem stringOnto_escape (acc : List Char) (fuel : Nat) (c : Char) (rest : List Char) :
    stringOnto acc (fuel + 1) (escape c ++ rest) = stringOnto (c :: acc) fuel rest := by
  rw [escape]
  -- each of the seven short escapes is read by its letter
  iterate 7
    split
    · next h =>
      rw [eq_of_beq h]
      rfl
  next hquote hslash _ _ _ _ _ =>
  split
  · next hcontrol =>
    -- a control character without a letter of its own
    have hread := escaped_control hcontrol rest
    simp only [List.cons_append, List.nil_append]
    rw [stringOnto_cons, if_neg (by decide), if_pos (by decide), hread]
  · next hcontrol =>
    -- every other character stands for itself
    rw [List.singleton_append, stringOnto_cons, if_neg hquote, if_neg hslash, if_neg hcontrol]

/-- The characters that were printed are read back one by one, up to the closing quote. -/
theorem stringOnto_flatMap_escape (acc s rest : List Char) {fuel : Nat} (hfuel : s.length < fuel) :
    stringOnto acc fuel (s.flatMap escape ++ '"' :: rest) = .ok (acc.reverse ++ s, rest) := by
  induction s generalizing acc fuel with
  | nil =>
    obtain ⟨fuel, rfl⟩ := Nat.exists_eq_add_one_of_ne_zero (Nat.ne_zero_of_lt hfuel)
    -- the closing quote ends the string
    rw [List.flatMap_nil, List.nil_append, stringOnto_cons, if_pos (by decide), List.append_nil]
  | cons c s ih =>
    obtain ⟨fuel, rfl⟩ := Nat.exists_eq_add_one_of_ne_zero (Nat.ne_zero_of_lt hfuel)
    rw [List.flatMap_cons, List.append_assoc, stringOnto_escape,
      ih (c :: acc) (Nat.lt_of_succ_lt_succ hfuel), List.reverse_cons, List.append_assoc,
      List.singleton_append]

/-- What stands behind the opening quote of a printed string. -/
@[simp] theorem quote_append (s : String) (rest : List Char) :
    quote s ++ rest = '"' :: (s.toList.flatMap escape ++ '"' :: rest) := by
  simp [quote]

/-- A string is read back from behind its opening quote. -/
theorem stringBody_quote (s : String) (rest : List Char) {fuel : Nat}
    (hfuel : s.toList.length < fuel) :
    stringBody fuel (s.toList.flatMap escape ++ '"' :: rest) = .ok (s, rest) := by
  have hread := stringOnto_flatMap_escape [] s.toList rest hfuel
  rw [stringBody]
  simp only [bind, StateT.bind, hread, Except.bind]
  rw [List.reverse_nil, List.nil_append, String.ofList_toList]
  rfl

/-! ## Whole numbers -/

/-- Nothing that would go on with a whole number. -/
def EndsNumber (rest : List Char) : Prop :=
  ∀ c ∈ rest.head?, digit? c = none ∧ c ≠ '.' ∧ c ≠ 'e' ∧ c ≠ 'E'

/-- The digits of a number that fits a word are collected to it. -/
theorem wholeDigits_natChars (negative : Bool) {n : Nat} (hn : n ≤ maxSignificand)
    (rest : List Char) :
    wholeDigits negative 0 (natChars n ++ rest) = wholeDigits negative n rest := by
  induction n using Nat.strongRecOn generalizing rest with
  | ind n ih =>
    by_cases hlt : n < 10
    · have hfits : ¬ maxSignificand < 0 * 10 + n := by omega
      rw [natChars, Nat.toDigits_of_lt_base hlt, List.singleton_append, wholeDigits,
        digit?_digitChar n hlt]
      simp only [if_neg hfits]
      rw [Nat.zero_mul, Nat.zero_add]
    · -- all digits but the last are those of the tenth
      have hlast : digit? (Nat.digitChar (n % 10)) = some (n % 10) :=
        digit?_digitChar _ (Nat.mod_lt n (by decide))
      have hjoin : n / 10 * 10 + n % 10 = n := by omega
      rw [natChars, Nat.toDigits_of_base_le (by decide) (by omega), List.append_assoc,
        ← natChars, ih (n / 10) (by omega) (by omega), List.singleton_append, wholeDigits, hlast]
      simp only [hjoin, if_neg (Nat.not_lt.mpr hn)]

/-- The first digit of a number that is not zero is not zero. -/
theorem exists_natChars_eq_cons {n : Nat} (hn : n ≠ 0) :
    ∃ d more, d ≠ 0 ∧ d < 10 ∧ natChars n = Nat.digitChar d :: more := by
  induction n using Nat.strongRecOn with
  | ind n ih =>
    by_cases hlt : n < 10
    · exact ⟨n, [], hn, hlt, Nat.toDigits_of_lt_base hlt⟩
    · obtain ⟨d, more, hd, hd10, hfirst⟩ := ih (n / 10) (by omega) (by omega)
      refine ⟨d, more ++ [Nat.digitChar (n % 10)], hd, hd10, ?_⟩
      rw [natChars, Nat.toDigits_of_base_le (by decide) (by omega), ← natChars, hfirst,
        List.cons_append]

/-- Where a number ends, it is the whole number that was collected. -/
theorem afterWhole_of_ends (negative : Bool) (n : Nat) {rest : List Char} (h : EndsNumber rest) :
    afterWhole negative n rest = wholeNumber negative n rest := by
  cases rest with
  | nil => rfl
  | cons c rest =>
    obtain ⟨-, hpoint, he, hE⟩ := h c rfl
    -- neither a point nor an exponent follows
    rw [afterWhole, if_neg (by simp [hpoint]), if_neg (by simp [he, hE])]

/-- No digit is collected where a number ends. -/
theorem wholeDigits_of_ends (negative : Bool) (n : Nat) {rest : List Char} (h : EndsNumber rest) :
    wholeDigits negative n rest = wholeNumber negative n rest := by
  rw [← afterWhole_of_ends negative n h]
  cases rest with
  | nil => rfl
  | cons c rest =>
    obtain ⟨hdigit, -⟩ := h c rfl
    rw [wholeDigits, hdigit]

/-- A first digit that is not zero counts as the number so far. -/
theorem number_of_digit (negative : Bool) {c : Char} {d : Nat} (hc : digit? c = some d)
    (hd : d ≠ 0) (rest : List Char) :
    number negative (c :: rest) = wholeDigits negative d rest := by
  obtain ⟨d, rfl⟩ := Nat.exists_eq_add_one_of_ne_zero hd
  rw [number.eq_def]
  simp only [hc]

/-- The digits of a number, the sign being taken. -/
theorem number_natChars (negative : Bool) {n : Nat} (hn : n ≤ maxSignificand) {rest : List Char}
    (h : EndsNumber rest) :
    number negative (natChars n ++ rest) = wholeNumber negative n rest := by
  by_cases hzero : n = 0
  · -- a zero stands alone, so no digit follows it
    subst hzero
    rw [← afterWhole_of_ends negative 0 h]
    cases rest with
    | nil => rfl
    | cons c rest =>
      obtain ⟨hdigit, -⟩ := h c rfl
      have hfirst : number negative (natChars 0 ++ c :: rest) =
          if (digit? c).isSome then failAt .invalidNumber (c :: rest)
          else afterWhole negative 0 (c :: rest) := rfl
      rw [hfirst, hdigit]
      rfl
  · obtain ⟨d, more, hd, hd10, hcons⟩ := exists_natChars_eq_cons hzero
    have hfits : ¬ maxSignificand < d := by
      have : 10 ≤ maxSignificand := by decide
      omega
    -- the first digit is not zero, so it counts as the number so far
    have hread := wholeDigits_natChars negative hn rest
    rw [hcons, List.cons_append, wholeDigits, digit?_digitChar d hd10] at hread
    simp only [Nat.zero_mul, Nat.zero_add, if_neg hfits] at hread
    rw [hcons, List.cons_append, number_of_digit negative (digit?_digitChar d hd10) hd, hread,
      wholeDigits_of_ends negative n h]

/-- A number begins with a digit. -/
theorem exists_digit_of_natChars (n : Nat) :
    ∃ d more, d < 10 ∧ natChars n = Nat.digitChar d :: more := by
  by_cases h : n = 0
  · exact ⟨0, [], by decide, by rw [h]; rfl⟩
  · obtain ⟨d, more, -, hd, hcons⟩ := exists_natChars_eq_cons h
    exact ⟨d, more, hd, hcons⟩

/-- A value that begins with a digit is a number. -/
theorem scalar_digit (fuel : Nat) {d : Nat} (hd : d < 10) (rest : List Char) :
    scalar fuel (Nat.digitChar d) rest =
      (Json.number <$> number false) (Nat.digitChar d :: rest) := by
  have hletter : ∀ d < 10, Nat.digitChar d ∉ ['n', 't', 'f', '-'] := by decide
  have hnot := hletter d hd
  simp only [List.mem_cons, not_or] at hnot
  obtain ⟨hn, ht, hf, hminus, -⟩ := hnot
  simp [scalar, hn, ht, hf, hminus, digit?_digitChar d hd]

theorem map_of_ok {α β : Type} (f : α → β) {read : Reader α} {s rest : List Char} {v : α}
    (h : read s = .ok (v, rest)) : (f <$> read) s = .ok (f v, rest) := by
  have hmap : (f <$> read) s = (read s).bind fun p => .ok (f p.1, p.2) := rfl
  rw [hmap, h]
  rfl

/-- A whole number is read back as the value that begins with its sign or its first digit. -/
theorem scalar_whole {n : Int} (hrange : -0x8000000000000000 ≤ n ∧ n < 0x10000000000000000)
    (fuel : Nat) {rest : List Char} (h : EndsNumber rest) : ∃ c more,
      intChars n ++ rest = c :: more ∧ (c = '-' ∨ ∃ d < 10, c = Nat.digitChar d) ∧
      scalar fuel c more = .ok (.number (.whole n hrange), rest) := by
  have hmax : maxSignificand = 0xffffffffffffffff := rfl
  cases n with
  | ofNat n =>
    have hn : n < 0x10000000000000000 := by
      have := hrange.2
      rw [Int.ofNat_eq_natCast] at this
      omega
    -- without a sign the value begins with its first digit
    obtain ⟨d, more, hd, hcons⟩ := exists_digit_of_natChars n
    have hread := number_natChars false (by omega : n ≤ maxSignificand) h
    rw [hcons, List.cons_append, wholeNumber, if_neg Bool.false_ne_true, dif_pos hn] at hread
    refine ⟨Nat.digitChar d, more ++ rest, ?_, .inr ⟨d, hd, rfl⟩, ?_⟩
    · rw [intChars, hcons, List.cons_append]
    · rw [scalar_digit fuel hd]
      exact map_of_ok Json.number hread
  | negSucc n =>
    have hn : n + 1 ≠ 0 ∧ n + 1 ≤ 0x8000000000000000 := by
      have := hrange.1
      omega
    -- the sign is taken, and the digits are those of the amount
    have hread := number_natChars true (by omega : n + 1 ≤ maxSignificand) h
    rw [wholeNumber, if_pos rfl, dif_pos hn] at hread
    refine ⟨'-', natChars (n + 1) ++ rest, rfl, .inl rfl, ?_⟩
    exact map_of_ok Json.number hread

end ManagementModel.Json.Reader
