import ManagementModel.Proofs.Text.ModifiedUtf8
import ManagementModel.Wire.Reader
import ManagementModel.Wire.Writer
import Mathlib.Algebra.GroupWithZero.Nat

/-!
# ManagementModel — numbers in big endian order

A number of a given width has exactly one form, the one that is written; the reader adds up the
bytes from the front and comes to the same number.

Main results:

* `numberForm_iff` — the written bytes are the only form of a number of that width.
* `foldl_eq_ofBigEndian` — what the reader adds up is the number that the bytes spell.
-/

namespace ManagementModel.Wire

/-- The number that bytes spell, the highest of them first. -/
def ofBigEndian : List UInt8 → Nat
  | [] => 0
  | b :: rest => b.toNat * 256 ^ rest.length + ofBigEndian rest

def NumberForm (width : Nat) (bs : List UInt8) (n : Nat) : Prop :=
  bs.length = width ∧ ofBigEndian bs = n

/-- A count is a number of 32 bits with a sign, and not negative. -/
def CountForm (bs : List UInt8) (n : Nat) : Prop :=
  NumberForm 4 bs n ∧ n < 2 ^ 31

/-! ## The number of some bytes -/

/-- A number of some bytes is less than the power of 256 with their number. -/
theorem ofBigEndian_lt (bs : List UInt8) : ofBigEndian bs < 256 ^ bs.length := by
  induction bs with
  | nil => simp [ofBigEndian]
  | cons b rest ih =>
    have hb : b.toNat ≤ 255 := Nat.le_of_lt_succ b.toNat_lt
    rw [ofBigEndian, List.length_cons, Nat.pow_succ]
    -- the highest byte counts at most 255 times the power of its place
    have hmul := Nat.mul_le_mul_right (256 ^ rest.length) hb
    omega

/-- A number that has a form of a width is in the range of the width. -/
theorem NumberForm.lt {width : Nat} {bs : List UInt8} {n : Nat} (h : NumberForm width bs n) :
    n < 256 ^ width := by
  rw [← h.1, ← h.2]
  exact ofBigEndian_lt bs

/-- What the reader adds up from the front is the number that the bytes spell. -/
theorem foldl_eq_ofBigEndian (bs : List UInt8) (n : Nat) :
    bs.foldl (fun n b => n * 256 + b.toNat) n = n * 256 ^ bs.length + ofBigEndian bs := by
  induction bs generalizing n with
  | nil => simp [ofBigEndian]
  | cons b rest ih =>
    -- the first byte is multiplied once for every byte behind it
    rw [List.foldl_cons, ih, ofBigEndian, List.length_cons, Nat.pow_succ, Nat.add_mul,
      Nat.mul_assoc, Nat.mul_comm 256]
    omega

/-! ## The written bytes -/

/-- As many bytes are written as are asked for. -/
@[simp] theorem length_bigEndian (width n : Nat) : (bigEndian width n).length = width := by
  induction width with
  | zero => rfl
  | succ width ih => simp [bigEndian, ih]

/-- The written bytes spell the number, as far as it goes into so many bytes. -/
theorem ofBigEndian_bigEndian (width n : Nat) :
    ofBigEndian (bigEndian width n) = n % 256 ^ width := by
  induction width with
  | zero => simp [bigEndian, ofBigEndian, Nat.mod_one]
  | succ width ih =>
    -- the highest byte is a digit of base 256, and the rest spells the remainder
    rw [bigEndian, ofBigEndian, ih, length_bigEndian, Nat.pow_eq,
      Text.ModifiedUtf8.toNat_toUInt8 (Nat.mod_lt _ (by decide)), Nat.pow_succ, Nat.mod_mul,
      Nat.mul_comm, Nat.add_comm]

/-- Bytes of one length that spell the same number are the same. -/
theorem eq_of_ofBigEndian_eq {as bs : List UInt8} (hl : as.length = bs.length)
    (h : ofBigEndian as = ofBigEndian bs) : as = bs := by
  -- the induction is on the bytes of both; the first bytes are compared as digits
  induction as generalizing bs with
  | nil => exact (List.length_eq_zero_iff.mp hl.symm).symm
  | cons a as ih =>
    obtain ⟨b, bs, rfl⟩ : ∃ b bs', bs = b :: bs' := by
      cases bs with
      | nil => simp at hl
      | cons b bs => exact ⟨b, bs, rfl⟩
    have hlen : as.length = bs.length := by simpa using hl
    have ha := ofBigEndian_lt as
    have hb := ofBigEndian_lt bs
    simp only [ofBigEndian, hlen] at h ha
    -- both are the quotient and the remainder of one number
    have hpos : 0 < 256 ^ bs.length := Nat.pos_of_ne_zero (by simp)
    have hdiv := congrArg (· / 256 ^ bs.length) h
    have hmod := congrArg (· % 256 ^ bs.length) h
    simp only [Nat.mul_add_mod_self_right, Nat.mod_eq_of_lt, ha, hb] at hmod
    rw [hmod] at h
    have hhead : a.toNat = b.toNat := Nat.eq_of_mul_eq_mul_right hpos (Nat.add_right_cancel h)
    rw [UInt8.toNat_inj.mp hhead, ih hlen hmod]

/-- The written bytes are a form of a number that is in the range. -/
theorem numberForm_bigEndian {width n : Nat} (h : n < 256 ^ width) :
    NumberForm width (bigEndian width n) n :=
  ⟨length_bigEndian width n, by rw [ofBigEndian_bigEndian, Nat.mod_eq_of_lt h]⟩

/-- The written bytes are the only form of a number of a width. -/
theorem numberForm_iff {width n : Nat} {bs : List UInt8} :
    NumberForm width bs n ↔ n < 256 ^ width ∧ bs = bigEndian width n := by
  constructor
  · intro h
    -- both have the same length and spell the same number
    refine ⟨h.lt, eq_of_ofBigEndian_eq ?_ ?_⟩
    · rw [h.1, length_bigEndian]
    · rw [h.2, ofBigEndian_bigEndian, Nat.mod_eq_of_lt h.lt]
  · rintro ⟨hn, rfl⟩
    exact numberForm_bigEndian hn

/-- The written bytes are the only form of a count. -/
theorem countForm_iff {n : Nat} {bs : List UInt8} :
    CountForm bs n ↔ n ≤ maxCount ∧ bs = bigEndian 4 n := by
  rw [CountForm, numberForm_iff, maxCount]
  constructor
  · rintro ⟨⟨-, hbs⟩, hn⟩
    -- the greatest count is the greatest number of 32 bits with a sign
    exact ⟨by omega, hbs⟩
  · rintro ⟨hn, hbs⟩
    exact ⟨⟨by omega, hbs⟩, by omega⟩

end ManagementModel.Wire
