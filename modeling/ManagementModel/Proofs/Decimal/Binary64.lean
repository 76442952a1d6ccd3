import ManagementModel.Decimal.Binary64
import Mathlib.Algebra.GroupWithZero.Nat

/-!
# ManagementModel — words as doubles

A word without a sign has at most sixty-four bits, so the double nearest to it has a small exponent:
rounding takes it to at most fifty-three bits, and a carry out of them adds one to an exponent that
is far below that of infinity.

Main results:

* `isFinite_ofNat` — the double of a word is finite.
* `numEq_self_iff` — the doubles that equal themselves.
-/

namespace ManagementModel.Binary64

theorem isNaN_eq_false {bits : UInt64} (h : isFinite bits = true) : isNaN bits = false :=
  decide_eq_false (Nat.lt_asymm (of_decide_eq_true h))

/-- Only a NaN differs from itself. -/
theorem numEq_self_iff {bits : UInt64} : numEq bits bits = true ↔ isNaN bits = false := by
  unfold numEq
  cases isNaN bits <;> simp

/-- Numbers are equal if they are the same word or both are zero. -/
theorem numEq_iff {a b : UInt64} : numEq a b = true ↔
    isNaN a = false ∧ isNaN b = false ∧ (a = b ∨ magnitude a = 0 ∧ magnitude b = 0) := by
  unfold numEq
  simp [and_assoc]

theorem numEq_symm {a b : UInt64} (h : numEq a b = true) : numEq b a = true := by
  obtain ⟨ha, hb, hab⟩ := numEq_iff.mp h
  refine numEq_iff.mpr ⟨hb, ha, ?_⟩
  rcases hab with rfl | ⟨ha0, hb0⟩
  · exact .inl rfl
  · exact .inr ⟨hb0, ha0⟩

/-- Equality of numbers is transitive. -/
theorem numEq_trans {a b c : UInt64} (h : numEq a b = true) (h' : numEq b c = true) :
    numEq a c = true := by
  obtain ⟨ha, -, hab⟩ := numEq_iff.mp h
  obtain ⟨-, hc, hbc⟩ := numEq_iff.mp h'
  refine numEq_iff.mpr ⟨ha, hc, ?_⟩
  rcases hab with rfl | ⟨ha0, hb0⟩
  · exact hbc
  · -- what equals a zero is a zero
    rcases hbc with rfl | ⟨-, hc0⟩
    · exact .inr ⟨ha0, hb0⟩
    · exact .inr ⟨ha0, hc0⟩

theorem isNaN_of_magnitude {bits : UInt64} (h : magnitude bits = 0) : isNaN bits = false := by
  unfold isNaN
  rw [h]
  rfl

/-- Rounding does not pass a whole number that the quotient is below. -/
theorem roundToEven_le {num den bound : Nat} (h : num < bound * den) :
    roundToEven num den ≤ bound := by
  have hden : 0 < den := Nat.pos_of_mul_pos_left (Nat.zero_lt_of_lt h)
  have hwhole : num / den < bound := (Nat.div_lt_iff_lt_mul hden).mpr h
  rw [roundToEven]
  -- rounding up adds one at most, and a tie adds one if the quotient is odd
  split
  · omega
  · split <;> omega

/-- With a scale that is fifty-three below its number of bits, a number has fifty-three bits. -/
theorem scaled_lt {n bits : Nat} {e : Int} (hn : n < 2 ^ bits) (he : (bits : Int) = e + 53) :
    n * (scaled 1 e).2 < 2 * exponentWeight * (scaled 1 e).1 := by
  have hexponent : bits + (-e).toNat = 53 + e.toNat := by omega
  have hpos : 0 < 2 ^ (-e).toNat := Nat.two_pow_pos _
  calc n * (scaled 1 e).2 = n * 2 ^ (-e).toNat := rfl
    _ < 2 ^ bits * 2 ^ (-e).toNat := Nat.mul_lt_mul_of_pos_right hn hpos
    _ = 2 ^ 53 * 2 ^ e.toNat := by rw [← Nat.pow_add, hexponent, Nat.pow_add]
    _ = 2 * exponentWeight * (scaled 1 e).1 := by rw [scaled, Nat.one_mul]; rfl

/-- The scale that rounding a number takes, which leaves it at most fifty-three bits. -/
theorem exists_scale (n : Nat) : ∃ e : Int, (n.log2 : Int) - 53 ≤ e ∧ e ≤ n.log2 - 52 ∧
    n * (scaled 1 e).2 < 2 * exponentWeight * (scaled 1 e).1 ∧
    (if 2 * exponentWeight * (scaled 1 (n.log2 - 53)).1 ≤ n * (scaled 1 (n.log2 - 53)).2
      then (n.log2 : Int) - 53 + 1 else n.log2 - 53) = e := by
  split
  · exact ⟨n.log2 - 52, by omega, by omega, scaled_lt Nat.lt_log2_self (by omega), by omega⟩
  · next hshort => exact ⟨n.log2 - 53, by omega, by omega, Nat.not_le.mp hshort, rfl⟩

/-- The double nearest to a word is below infinity. -/
theorem nearest_lt_infinity {n : Nat} (h : n < 2 ^ 64) : nearest n 1 < infinity := by
  rw [nearest]
  split
  · decide
  · next hne =>
    have hbits : n.log2 < 64 := (Nat.log2_lt (by simpa using hne)).mpr h
    have hlog : ((Nat.log2 1 : Nat) : Int) = 0 := rfl
    obtain ⟨e, hlow, hhigh, hfits, he⟩ := exists_scale n
    have hmax : max (-1074) e = e := by omega
    have hm := roundToEven_le hfits
    simp only [hlog, Int.sub_zero, he, hmax]
    -- the exponent field is at most eleven and the bias, and one more for a carry
    have hfield : (e + 1075).toNat ≤ 1086 := by omega
    have hproduct := Nat.mul_le_mul_right exponentWeight hfield
    refine Nat.lt_of_le_of_lt (Nat.min_le_left _ _) ?_
    generalize roundToEven (n * (scaled 1 e).2) (scaled 1 e).1 = m at hm ⊢
    unfold exponentWeight at *
    have hinfinity : infinity = 2047 * 4503599627370496 := rfl
    -- subnormal or not, the result stays below the field of infinity
    by_cases hsmall : m < 4503599627370496
    · rw [if_pos hsmall]
      omega
    · rw [if_neg hsmall]
      omega

/-- The double of a word without a sign is finite. -/
theorem isFinite_ofNat {n : Nat} (h : n < 2 ^ 64) : isFinite (ofNat n).toUInt64 = true := by
  have hlt : ofNat n < infinity := nearest_lt_infinity h
  have hbits : (ofNat n).toUInt64.toNat = ofNat n := by
    rw [UInt64.toNat_ofNat']
    exact Nat.mod_eq_of_lt (Nat.lt_trans hlt (by decide))
  -- there is no sign bit to clear
  have hmagnitude : magnitude (ofNat n).toUInt64 = ofNat n := by
    rw [magnitude, hbits]
    exact Nat.mod_eq_of_lt (Nat.lt_trans hlt (by decide))
  rw [isFinite, hmagnitude]
  exact decide_eq_true hlt

end ManagementModel.Binary64
